import WideColumn.Proofs.Loaded.Calls
import WideColumn.Proofs.Registry.Complete
import WideColumn.Proofs.Removal.Deletes
import WideColumn.Proofs.Window.Timestamp

/-!
# A removal leaves nothing behind

Inserts and updates under a key, whether at once or in a window, write rows of the key only: the row
in the table of the class, and the rows that the counters of the class are kept in. A step lemma
(`Write.handsOn_runIn`) says so of one write, and the run lemma (`Wrote.handsOver`) of a whole history
of them, with anything else done in between. A removal of the key deletes each row of the key once,
and no other. Main statement: `removal_contract`.
-/

namespace WideColumn

open Op

variable {σ E : Type}

/-! ### Writes under a key -/

/-- A write of a class under an encoded key: a regular one on the row of the key, or one of a counter
on the row that the counter is kept in. -/
def EntityMeta.WritesUnder (em : EntityMeta) (encoded : List Value) : BatchKind → Request → Prop
  | .logged, r => r.IsOn em (.entity em.tableName encoded)
  | .counter, r => ∃ pm ∈ em.counters, r.IsOn em (em.counterRow encoded pm)

/-- Such a write is on a row of the key. -/
theorem EntityMeta.WritesUnder.exists_row {em : EntityMeta} {encoded : List Value}
    {kind : BatchKind} {r : Request} (h : em.WritesUnder encoded kind r) :
    ∃ row ∈ em.rowsOf encoded, r.IsOn em row := by
  cases kind with
  | logged => exact ⟨_, List.mem_cons_self, h⟩
  | counter =>
    obtain ⟨pm, hpm, hrow⟩ := h
    exact ⟨_, counterRow_mem_rowsOf hpm, hrow⟩

/-- The write is under an encoded key: of the entity as the interceptors leave it that run before the
write, unless they are put off, or of the key that is given. An update is under the key of its proxy,
and its entity still has this key. -/
def Write.Under (T : EntityType E) (em : EntityMeta) (encoded : List Value) (mode : OutboxMode)
    (w : Workspace E) : Write E → Prop
  | persist entity => ∀ e ∈ entity.entity? w,
      Registry.encodedKey em (T.key (T.after .prePersist mode e)) = .ok encoded
  | update p => Registry.encodedKey em p.key = .ok encoded ∧
      ∃ cell ∈ w.cell? p.handle,
        Registry.encodedKey em (T.key (T.after .preUpdate mode cell.entity)) = .ok encoded
  | remove entity => ∀ e ∈ entity.entity? w,
      Registry.encodedKey em (T.key (T.after .preRemove mode e)) = .ok encoded
  | removeById key => Registry.encodedKey em key = .ok encoded

/-- Whether the write is a removal. -/
def Write.removes : Write E → Bool
  | remove _ | removeById _ => true
  | _ => false

section

variable [Session σ] {types : List (String × EntityMeta)}

/-- What an insert hands over, whether it is executed at once or in a window. -/
theorem Call.handsOn_persist {c : Call E} {W : BatchKind → Request → Prop} {s : Site σ E}
    {entity : E}
    (hrow : ∀ r request, Registry.Sound r types →
      r.bindInsert c.type c.entityMeta (c.type.after .prePersist s.outbox.mode entity) c.options
        (Levels.write c.options c.entityMeta) = .ok request → W .logged request)
    (hdelta : ∀ r pm delta request, Registry.Sound r types → pm ∈ c.entityMeta.counters →
      c.bindDelta r pm (c.type.key (c.type.after .prePersist s.outbox.mode entity)) delta =
        .ok request → W .counter request) :
    HandsOn types W s (c.persist entity s).2 := by
  have hR : Composes (HandsOn (σ := σ) (E := E) types W) := composes_handsOn
  have hcell := Workspace.cell?_add_self s.workspace entity
  rw [persist_apply]
  have hadding : HandsOn types W s (s.adding entity) :=
    .of_registry rfl (List.append_nil _).symm (.of_quiet quiet_nil)
  refine hR.trans hadding (hR.bind_at (handsOn_trigger _ _ _ _) fun _ t htrigger => ?_)
  have hcell' := cell?_of_trigger (s := s.adding entity) (by decide) hcell htrigger
  rw [persistRest_apply hcell']
  refine hR.bind_at (writes_handsOn.assuming fun ht => ?_) fun _ u _ => ?_
  · -- The row, unless it is one of a counter table.
    cases hclustered : c.entityMeta.isClusteredCounter with
    | true =>
      unfold insertRow
      rw [if_pos hclustered]
      exact hR.refl t
    | false =>
      rw [insertRow_apply hclustered hcell']
      refine hR.lift_bind_at fun request hbind => ?_
      have hpush : Keeps (HandsOn (σ := σ) (E := E) types W) (handOver .logged request) :=
        handsOn_handOver (hrow t.registry request ht hbind)
      exact hR.bind hpush (fun _ => hR.pure _) t
  · have hend : Keeps (HandsOn (σ := σ) types W) (c.persistEnd (s.workspace.add entity).1
        (c.type.key (c.type.after .prePersist s.outbox.mode entity))) :=
      hR.bind (handsOn_trigger _ _ _) fun _ =>
        hR.bind (fun _ => .of_registry rfl (List.append_nil _).symm (.of_quiet quiet_nil)) fun _ =>
          hR.pure _
    exact hR.bind (c.upholds_writeCounters_of_key writes_handsOn
      (fun s pm delta request hs => hdelta s.registry pm delta request hs) _) (fun _ => hend) u

variable [LawfulSession σ]

/-- An insert or an update under a key writes rows of the key. -/
theorem Write.handsOn_runIn {w : Write E} (hw : w.removes = false) {T : EntityType E}
    {em : EntityMeta} {encoded : List Value} {s : Site σ E}
    (hem : s.types.lookup T.typeName = some em) (hsole : SoleClass s.types em)
    (hunder : w.Under T em encoded s.outbox.mode s.workspace) (options : Options) :
    HandsOn s.types (em.WritesUnder encoded) s (w.runIn T options s).2 := by
  have hR : Composes (HandsOn (σ := σ) (E := E) s.types (em.WritesUnder encoded)) :=
    composes_handsOn
  cases w with
  | persist entity =>
    refine hR.bind_at (Manager.persistIn_at hR fun c e hentity hc => ?_) fun _ t _ => hR.refl t
    obtain rfl := hc.type_eq
    obtain rfl : em = c.entityMeta := Option.some.inj (hem.symm.trans hc.lookup_eq)
    have hkey := hunder e (by rw [hentity]; rfl)
    exact Call.handsOn_persist
      (fun r request hr hbind => hr.isOn_of_bindInsert hsole hkey hbind)
      (fun r pm delta request hr hpm hbind => ⟨pm, hpm, hr.isOn_of_bindDelta hsole hkey hbind⟩)
  | update p =>
    rcases Manager.updateIn_cases T p options s with ⟨e, hrun⟩ | ⟨c, hc, hrun⟩
    · show HandsOn _ _ s (Manager.updateIn T p options s).2
      rw [hrun]
      exact hR.refl s
    · obtain rfl := hc.type_eq
      obtain rfl : em = c.entityMeta := Option.some.inj (hem.symm.trans hc.lookup_eq)
      obtain ⟨hkey, cell, hcell, hrow⟩ := hunder
      show HandsOn _ _ s (Manager.updateIn c.type p options s).2
      rw [hrun]
      exact Call.handsOn_update (mem_of_lookup hem) hcell
        (fun t u request ht hbind => Op.isOn_of_bindUpdate ht hsole hrow hbind)
        (fun r pm delta request hr hpm hbind => ⟨pm, hpm, hr.isOn_of_bindDelta hsole hkey hbind⟩)
  | remove entity => cases hw
  | removeById key => cases hw

omit [LawfulSession σ] in
/-- A removal that succeeds is one of the entity that is meant. -/
theorem Manager.removeIn_eq_ok {T : EntityType E} {entity : Tracked E} {options : Options}
    {s t : Site σ E} (hrun : removeIn T entity options s = (.ok (), t)) :
    ∃ c e, IsCall T options s c ∧ entity.entity? s.workspace = some e ∧
      c.remove e s = (.ok (), t) := by
  obtain ⟨c, hc, hrun⟩ := call_bind_eq_ok hrun
  cases entity with
  | bare e => exact ⟨c, e, hc, rfl, hrun⟩
  | proxy p =>
    obtain ⟨cell, u, hcell, hremove⟩ := bind_eq_ok hrun
    obtain ⟨hcell, rfl⟩ := cell_eq_ok hcell
    exact ⟨c, cell.entity, hc, congrArg (Option.map Cell.entity) hcell, hremove⟩

omit [LawfulSession σ] in
/-- A removal under a key that succeeds deletes every row of the key. -/
theorem Write.issues_runIn {w : Write E} (hw : w.removes = true) {T : EntityType E}
    {em : EntityMeta} {encoded : List Value} {s t : Site σ E} (hs : s.registry.Sound types)
    (hsole : SoleClass types em)
    (hserves : em.isClusteredCounter = false → s.registry.ServesRows em)
    (hem : s.types.lookup T.typeName = some em)
    (hunder : w.Under T em encoded s.outbox.mode s.workspace) {options : Options}
    (hrun : w.runIn T options s = (.ok (), t)) :
    ∃ writes, IssuesOn writes s t ∧ List.Forall₂ em.DeletesRow writes (em.rowsOf encoded) := by
  cases w with
  | persist entity => cases hw
  | update p => cases hw
  | remove entity =>
    obtain ⟨c, e, hc, he, hremove⟩ := Manager.removeIn_eq_ok hrun
    obtain rfl := hc.type_eq
    obtain rfl : em = c.entityMeta := Option.some.inj (hem.symm.trans hc.lookup_eq)
    obtain ⟨encoded', writes, hkey, hissues, hrows⟩ :=
      Call.issues_remove hs hsole hserves hremove
    obtain rfl := Except.ok.inj ((hunder e he).symm.trans hkey)
    exact ⟨writes, hissues, hrows⟩
  | removeById key =>
    obtain ⟨c, hc, hremove⟩ := Manager.call_bind_eq_ok hrun
    obtain rfl := hc.type_eq
    obtain rfl : em = c.entityMeta := Option.some.inj (hem.symm.trans hc.lookup_eq)
    obtain ⟨encoded', writes, hkey, hissues, hrows⟩ :=
      Call.issues_removeByKey hs hsole hserves hremove
    have hunder : Registry.encodedKey c.entityMeta key = .ok encoded := hunder
    obtain rfl := Except.ok.inj (hunder.symm.trans hkey)
    exact ⟨writes, hissues, hrows⟩

end

/-! ### At once and in a window -/

/-- Whether what is handed over is executed at once or kept. -/
def Timing.mode : Timing → OutboxMode
  | atOnce => .immediate
  | inWindow _ => .batching

/-- The site that a call works on. -/
def Timing.start (s : Site σ E) : Timing → Site σ E
  | atOnce => Manager.atOnce s
  | inWindow _ => s

/-- The site that is left of it, with the outbox that a call at once gives back. -/
def Timing.finish (s t : Site σ E) : Timing → Site σ E
  | atOnce => { t with outbox := s.outbox }
  | inWindow _ => t

section

variable [Session σ] (how : Timing) (T : EntityType E) (w : Write E) (options : Options)
  (b : Batching σ E)

/-- A write, at once or in a window. -/
def Timing.write : Timing → BatchOp σ E Unit
  | atOnce => Batching.onSite (w.atOnce T options).run
  | inWindow now => (w.inWindow now T options).run

/-- A write is refused, or it is a write of the site. -/
theorem Timing.write_cases :
    (∃ outbox, (how.write T w options b).1 ≠ .ok () ∧
      (how.write T w options b).2.site = { b.site with outbox }) ∨
    ∃ options', (how.write T w options b).1 = (w.runIn T options' (how.start b.site)).1 ∧
      (how.write T w options b).2.site =
        how.finish b.site (w.runIn T options' (how.start b.site)).2 := by
  cases how with
  | atOnce =>
    have hrun := w.run_atOnce T options b.site
    exact .inr ⟨options, congrArg Prod.fst hrun, congrArg Prod.snd hrun⟩
  | inWindow now =>
    show (∃ outbox, ((w.inWindow now T options).run b).1 ≠ .ok () ∧ _) ∨ _
    rcases w.run_inWindow_cases now T options b with ⟨-, hrun⟩ | ⟨-, options', last, -, hrun⟩
    · exact .inl ⟨b.site.outbox.reset b.defaultLevel, by rw [hrun]; nofun,
        congrArg _ (congrArg Prod.snd hrun)⟩
    · exact .inr ⟨options', congrArg Prod.fst hrun, congrArg _ (congrArg Prod.snd hrun)⟩

theorem Timing.move_write : Move b (how.write T w options b).2 := by
  cases how with
  | atOnce => exact .manager b (w.atOnce T options) (by cases w <;> trivial)
  | inWindow now => exact .window b (w.inWindow now T options)

omit [Session σ] in
/-- A call works on the entities, the types and the statements of the site. -/
theorem Timing.mode_start (hb : b.site.outbox.IsWindow) :
    (how.start b.site).outbox.mode = how.mode := by
  cases how with
  | atOnce => rfl
  | inWindow now => exact hb.mode

end

/-! ### Histories -/

section

variable [Session σ]

/-- What a write did. -/
def Timing.writeActs (how : Timing) (T : EntityType E) (w : Write E) (options : Options)
    (b : Batching σ E) : List Act :=
  (how.write T w options b).2.site.trace.drop b.site.trace.length

/-- What inserts and updates under an encoded key did, of a registered type, up to a reachable state,
one after the other, at once or in windows, with whatever success, and with anything else done in
between. -/
inductive Wrote (T : EntityType E) (em : EntityMeta) (encoded : List Value) :
    Batching σ E → List Act → Prop
  | start {b : Batching σ E} : Reachable b → Wrote T em encoded b []
  | move {b c : Batching σ E} {acts : List Act} : Wrote T em encoded b acts → Move b c →
      Wrote T em encoded c acts
  | write {b : Batching σ E} {acts : List Act} {w : Write E} (how : Timing) (options : Options) :
      Wrote T em encoded b acts → w.removes = false →
      b.site.types.lookup T.typeName = some em →
      w.Under T em encoded how.mode b.site.workspace →
      Wrote T em encoded (how.write T w options b).2 (acts ++ how.writeActs T w options b)

variable {T : EntityType E} {em : EntityMeta} {encoded : List Value} {b : Batching σ E}
  {acts : List Act}

theorem Wrote.reachable (h : Wrote T em encoded b acts) : Reachable b := by
  induction h with
  | start hb => exact hb
  | move _ hmove ih => exact ih.move hmove
  | write how options _ _ _ _ ih => exact ih.move (how.move_write T _ options _)

variable [LawfulSession σ]

/-- One insert or update under a key. -/
theorem Timing.handsOver_write {w : Write E} (hw : w.removes = false) (hb : Reachable b)
    (hem : b.site.types.lookup T.typeName = some em) (hsole : SoleClass b.site.types em)
    (how : Timing) (hunder : w.Under T em encoded how.mode b.site.workspace) (options : Options) :
    HandsOver (em.WritesUnder encoded) (how.writeActs T w options b) := by
  unfold Timing.writeActs
  rcases how.write_cases T w options b with ⟨outbox, -, hsite⟩ | ⟨options', -, hsite⟩
  · rw [hsite, List.drop_length]
    exact .of_quiet quiet_nil
  · have hands : HandsOn b.site.types (em.WritesUnder encoded) (how.start b.site)
        (w.runIn T options' (how.start b.site)).2 := by
      rw [← how.mode_start b hb.isWindow] at hunder
      cases how with
      | atOnce =>
        exact w.handsOn_runIn (s := Manager.atOnce b.site) hw hem hsole hunder options'
      | inWindow now => exact w.handsOn_runIn hw hem hsole hunder options'
    have hsound : (how.start b.site).registry.Sound b.site.types := by
      cases how <;> exact hb.sound.registry
    obtain ⟨-, acts, htrace, hacts⟩ := hands hsound
    have hwhole : (how.write T w options b).2.site.trace = b.site.trace ++ acts := by
      rw [hsite]
      cases how <;> exact htrace
    rwa [acts_eq hwhole]

/-- A history of inserts and updates under a key writes rows of the key only. -/
theorem Wrote.handsOver (h : Wrote T em encoded b acts) (hsole : SoleClass b.site.types em) :
    HandsOver (em.WritesUnder encoded) acts := by
  have earlier {b c : Batching σ E} (hmove : Move b c) (hsole : SoleClass c.site.types em) :
      SoleClass b.site.types em := fun x hx =>
    hsole x ((Later.refl.move hmove).grown.types x hx)
  induction h with
  | start _ => exact .of_quiet quiet_nil
  | move _ hmove ih => exact ih (earlier hmove hsole)
  | @write b _ w how options h hw hem hunder ih =>
    have hbefore := earlier (how.move_write T w options b) hsole
    exact (ih hbefore).append (how.handsOver_write hw h.reachable hem hbefore hunder options)

/-- One removal under a key that succeeds. -/
theorem Timing.issues_write {w : Write E} (hw : w.removes = true) (hb : Reachable b)
    (hem : b.site.types.lookup T.typeName = some em) (hsole : SoleClass b.site.types em)
    (how : Timing) (hunder : w.Under T em encoded how.mode b.site.workspace) {options : Options}
    (hok : (how.write T w options b).1 = .ok ()) :
    ∃ writes, Issues writes how.mode (how.writeActs T w options b) ∧
      (∀ kind, (how.write T w options b).2.site.outbox.pending kind =
        b.site.outbox.pending kind ++ keptOf how.mode kind writes) ∧
      List.Forall₂ em.DeletesRow writes (em.rowsOf encoded) := by
  have hmode := how.mode_start b hb.isWindow
  rcases how.write_cases T w options b with ⟨outbox, hnot, -⟩ | ⟨options', hanswer, hsite⟩
  · exact absurd hok hnot
  · have hentry : SoleEntry b.site em :=
      ⟨hb.sound, hb.isComplete, ⟨_, mem_of_lookup hem⟩, hsole⟩
    have hregistry : (how.start b.site).registry = b.site.registry := by cases how <;> rfl
    have hrun : w.runIn T options' (how.start b.site) = (.ok (), _) :=
      Prod.ext (hanswer.symm.trans hok) rfl
    obtain ⟨writes, hissues, hrows⟩ := w.issues_runIn hw
      (hregistry ▸ hb.sound.registry : (how.start b.site).registry.Sound b.site.types) hsole
      (fun hplain => hregistry ▸ hentry.servesRows hplain) (by cases how <;> exact hem)
      (by rw [hmode]; cases how <;> exact hunder) hrun
    obtain ⟨acts, htrace, hacts⟩ := hissues.acts
    have hwhole : (how.write T w options b).2.site.trace = b.site.trace ++ acts := by
      rw [hsite]
      cases how <;> exact htrace
    refine ⟨writes, ?_, fun kind => ?_, hrows⟩
    · unfold Timing.writeActs
      rwa [acts_eq hwhole, ← hmode]
    · have hpending := hissues.pending kind
      rw [hmode] at hpending
      rw [hsite]
      cases how with
      | atOnce => exact (List.append_nil _).symm
      | inWindow now => exact hpending

end

/-! ### The contract -/

/-- What is related to a list is related element by element. -/
theorem exists_mem_of_forall₂ {α β : Type} {R : α → β → Prop} {xs : List α} {ys : List β}
    (h : List.Forall₂ R xs ys) : (∀ x ∈ xs, ∃ y ∈ ys, R x y) ∧ ∀ y ∈ ys, ∃ x ∈ xs, R x y := by
  induction h with
  | nil => exact ⟨nofun, nofun⟩
  | cons hxy _ ih =>
    refine ⟨List.forall_mem_cons.2 ⟨⟨_, List.mem_cons_self, hxy⟩, fun x hx => ?_⟩,
      List.forall_mem_cons.2 ⟨⟨_, List.mem_cons_self, hxy⟩, fun y hy => ?_⟩⟩
    · obtain ⟨y, hy, hr⟩ := ih.1 x hx
      exact ⟨y, List.mem_cons_of_mem _ hy, hr⟩
    · obtain ⟨x, hx, hr⟩ := ih.2 y hy
      exact ⟨x, List.mem_cons_of_mem _ hx, hr⟩

/-- Deletes of different rows are on different rows. -/
theorem pairwise_of_deletesRow {em : EntityMeta} {writes : List (BatchKind × Request)}
    {rows : List RowName} (h : List.Forall₂ em.DeletesRow writes rows) (hrows : rows.Nodup) :
    writes.Pairwise fun x y => ∀ row, x.2.IsOn em row → ¬ y.2.IsOn em row := by
  induction h with
  | nil => exact .nil
  | @cons x row writes rows hx hrest ih =>
    obtain ⟨hnot, hrows⟩ := List.nodup_cons.1 hrows
    refine .cons (fun y hy other hon hon' => ?_) (ih hrows)
    obtain ⟨row', hrow', hdeletes⟩ := (exists_mem_of_forall₂ hrest).1 y hy
    rw [hx.deletes.isOn.unique hon, ← hdeletes.deletes.isOn.unique hon'] at hnot
    exact hnot hrow'

/-- Deletes that take away all that was written under a key, and nothing else. -/
structure TakesAway (em : EntityMeta) (encoded : List Value) (history : List Act)
    (writes : List (BatchKind × Request)) : Prop where
  /-- They are one delete for each row of the key, of the kind of the row: the row in the table of the
  class, and those of the counters that are kept elsewhere. -/
  rows : List.Forall₂ em.DeletesRow writes (em.rowsOf encoded)
  /-- No two of them are on one row. -/
  once : writes.Pairwise fun x y => ∀ row, x.2.IsOn em row → ¬ y.2.IsOn em row
  /-- None of them is on a row that is not of the key. -/
  only : ∀ x ∈ writes, ∀ row, x.2.IsOn em row → row ∈ em.rowsOf encoded
  /-- Whatever was handed over is on a row that one of them deletes. -/
  covers : ∀ kind, ∀ r ∈ pushedIn kind history, ∃ row, r.IsOn em row ∧
    ∃ x ∈ writes, x.2.Deletes em row
  /-- What was handed over for counters is on the row that its counter is kept in. -/
  counters : ∀ r ∈ pushedIn .counter history, ∃ pm ∈ em.counters,
    r.IsOn em (em.counterRow encoded pm)
  /-- Nothing else was executed, and no group was sent. -/
  executed : ∀ statement ∈ executedIn history, ∃ kind, ∃ r ∈ pushedIn kind history,
    r.statement = statement
  groups : groupsIn history = []

/-- What a removal of a key owes to the history of inserts and updates under it. -/
structure RemovalContract [Session σ] (b : Batching σ E) (T : EntityType E) (em : EntityMeta)
    (encoded : List Value) (history : List Act) (w : Write E) (options : Options) (how : Timing) :
    Prop where
  /-- If it succeeds, it hands over deletes and nothing else, at once or to the window, that take away
  what was written. -/
  removes : (how.write T w options b).1 = .ok () → ∃ writes,
    Issues writes how.mode (how.writeActs T w options b) ∧
      (∀ kind, (how.write T w options b).2.site.outbox.pending kind =
        b.site.outbox.pending kind ++ keptOf how.mode kind writes) ∧
      TakesAway em encoded history writes
  /-- The rows of another key with components of the same kinds are other rows. -/
  otherKeys : ∀ other, List.Forall₂ Value.SameKind encoded other → encoded ≠ other →
    (em.rowsOf encoded).Disjoint (em.rowsOf other)
  /-- The rows of a class of another name and another table are other rows. -/
  otherClasses : ∀ other : EntityMeta, em.className ≠ other.className →
    em.tableName ≠ other.tableName → ∀ otherEncoded,
      (em.rowsOf encoded).Disjoint (other.rowsOf otherEncoded)

/-- Whatever was written under a key by inserts and updates, at once or in windows, a removal of the
key that succeeds deletes it, and deletes nothing else, if no other registered type has the name of the
class. -/
theorem removal_contract [Session σ] [LawfulSession σ] {T : EntityType E} {em : EntityMeta}
    {encoded : List Value} {b : Batching σ E} {history : List Act}
    (h : Wrote T em encoded b history) (hem : b.site.types.lookup T.typeName = some em)
    (hsole : SoleClass b.site.types em) {w : Write E} (hw : w.removes = true) (how : Timing)
    (hunder : w.Under T em encoded how.mode b.site.workspace) (options : Options) :
    RemovalContract b T em encoded history w options how where
  removes hok := by
    obtain ⟨writes, hissues, hpending, hrows⟩ :=
      how.issues_write hw h.reachable hem hsole hunder hok
    have hnames := (h.reachable.sound.built (mem_of_lookup hem)).distinctNames_counters
    have hhistory := h.handsOver hsole
    refine ⟨writes, hissues, hpending, hrows,
      pairwise_of_deletesRow hrows (EntityMeta.nodup_rowsOf hnames encoded), fun x hx row hon => ?_,
      fun kind r hr => ?_, fun r hr => hhistory.handed .counter r hr, hhistory.executed,
      hhistory.groups⟩
    · obtain ⟨row', hrow', hdeletes⟩ := (exists_mem_of_forall₂ hrows).1 x hx
      rwa [hon.unique hdeletes.deletes.isOn]
    · obtain ⟨row, hrow, hon⟩ := (hhistory.handed kind r hr).exists_row
      obtain ⟨x, hx, hdeletes⟩ := (exists_mem_of_forall₂ hrows).2 row hrow
      exact ⟨row, hon, x, hx, hdeletes.deletes⟩
  otherKeys other hsame hne := EntityMeta.rowsOf_disjoint_of_ne hsame hne
  otherClasses other hclass htable otherEncoded :=
    EntityMeta.rowsOf_disjoint_of_class hclass htable encoded otherEncoded

/-! ### Pages -/

namespace Page

/-- A page that was read twice, to be written. -/
def entered : Write Page := .persist (.bare ⟨.bigint 1, .text "Start", Counter.empty.incrBy 2⟩)

/-- The page is written at once. -/
def entering : Batching Script Page :=
  (Timing.atOnce.write plain entered .none (manager .empty [plain])).2

/-- What was done to write it. -/
def enteringActs : List Act := Timing.atOnce.writeActs plain entered .none (manager .empty [plain])

theorem wrote_entering : Wrote plain (entityMeta "pages") [.bigint 1] entering enteringActs := by
  have hb : Reachable (manager .empty [plain]) := reachable_manager_type _ _ _ _
  have hlookup : (manager .empty [plain]).site.types.lookup plain.typeName =
      some (entityMeta "pages") := by decide +kernel
  have hunder : entered.Under plain (entityMeta "pages") [.bigint 1] .immediate
      (manager .empty [plain]).site.workspace := fun page hpage => by
    rw [← Option.some.inj hpage]
    rfl
  have hwrote := Wrote.write .atOnce .none (.start hb) rfl hlookup hunder
  rwa [List.nil_append] at hwrote

/-- When the key is removed in a window, the row of the page and the row of its counter are
deleted. -/
theorem removal_contract_entered :
    RemovalContract entering plain (entityMeta "pages") [.bigint 1] enteringActs
        (.removeById [.bigint 1]) .none (.inWindow 7) ∧
      ((Timing.inWindow 7).write plain (.removeById [.bigint 1]) .none entering).1 = .ok () ∧
      (executedIn enteringActs).map Statement.query =
        ["INSERT INTO pages(id,title) VALUES (:id,:title) USING TTL :ttl;",
          s!"UPDATE {Template.counterTable} SET counter_value = counter_value + ? " ++
            s!"WHERE {Template.counterCondition}"] ∧
      (pushedIn .counter ((Timing.inWindow 7).writeActs plain (.removeById [.bigint 1]) .none
        entering)).map Request.query =
        [s!"DELETE FROM {Template.counterTable} WHERE {Template.counterCondition}"] := by
  have hsole : SoleClass entering.site.types (entityMeta "pages") := by
    unfold SoleClass
    decide +kernel
  exact ⟨removal_contract (w := .removeById [.bigint 1]) wrote_entering (by decide +kernel) hsole rfl
    (.inWindow 7) rfl .none, by decide +kernel, by decide +kernel, by decide +kernel⟩

end Page

end WideColumn
