import WideColumn.Proofs.Registry.Registration
import WideColumn.Proofs.Rejection.Operations
import WideColumn.Proofs.Removal.Rows

/-!
# What a removal hands over

A removal that succeeds hands over one delete for every row of its key, in the order of
`EntityMeta.rowsOf`, and nothing else, at once as in a window (`Call.issues_remove`). At once each is
executed as it is handed over; in a window none is.
-/

namespace WideColumn

open Op

variable {σ E : Type}

/-! ### Handing over exactly these writes -/

/-- The writes of one kind. -/
def writesOf (kind : BatchKind) (writes : List (BatchKind × Request)) : List Request :=
  (writes.filter fun x => x.1 = kind).map Prod.snd

/-- The writes of one kind that are kept for later. -/
def keptOf (mode : OutboxMode) (kind : BatchKind) (writes : List (BatchKind × Request)) :
    List Request :=
  match mode with
  | .immediate => []
  | .batching => writesOf kind writes

/-- The acts hand over these writes, in this order, and nothing else. -/
structure Issues (writes : List (BatchKind × Request)) (mode : OutboxMode) (acts : List Act) :
    Prop where
  pushed (kind : BatchKind) : pushedIn kind acts = writesOf kind writes
  /-- At once they are executed one by one, and nothing else is. -/
  executed : executedIn acts = match mode with
    | .immediate => writes.map fun x => x.2.statement
    | .batching => []
  groups : groupsIn acts = []

theorem writesOf_append (kind : BatchKind) (writes more : List (BatchKind × Request)) :
    writesOf kind (writes ++ more) = writesOf kind writes ++ writesOf kind more := by
  unfold writesOf
  rw [List.filter_append, List.map_append]

theorem writesOf_singleton (kind k : BatchKind) (r : Request) :
    writesOf k [(kind, r)] = if kind = k then [r] else [] := by
  cases kind <;> cases k <;> rfl

namespace Issues

variable {writes more : List (BatchKind × Request)} {mode : OutboxMode} {acts others : List Act}

theorem of_quiet (mode : OutboxMode) (h : Quiet acts) : Issues [] mode acts where
  pushed kind := h.1 kind
  executed := by
    rw [h.2.2]
    cases mode <;> rfl
  groups := h.2.1

theorem append (h : Issues writes mode acts) (hmore : Issues more mode others) :
    Issues (writes ++ more) mode (acts ++ others) where
  pushed kind := by rw [pushedIn_append, h.pushed, hmore.pushed, writesOf_append]
  executed := by
    rw [executedIn_append, h.executed, hmore.executed]
    cases mode with
    | immediate => exact List.map_append.symm
    | batching => rfl
  groups := by rw [groupsIn_append, h.groups, hmore.groups, List.append_nil]

theorem of_sending (kind : BatchKind) (r : Request) :
    Issues [(kind, r)] .immediate (sending kind r) where
  pushed k := by cases kind <;> cases k <;> rfl
  executed := rfl
  groups := rfl

theorem of_pushed (kind : BatchKind) (r : Request) :
    Issues [(kind, r)] .batching [.pushed kind r] where
  pushed k := by cases kind <;> cases k <;> rfl
  executed := rfl
  groups := rfl

end Issues

/-- A run that handed over these writes and left the statements as they were. In a window the writes
are pending afterwards. -/
structure IssuesOn (writes : List (BatchKind × Request)) (s t : Site σ E) : Prop where
  acts : ∃ acts, t.trace = s.trace ++ acts ∧ Issues writes s.outbox.mode acts
  pending (kind : BatchKind) :
    t.outbox.pending kind = s.outbox.pending kind ++ keptOf s.outbox.mode kind writes
  mode : t.outbox.mode = s.outbox.mode
  registry : t.registry = s.registry

namespace IssuesOn

variable {s t u : Site σ E} {writes more : List (BatchKind × Request)}

theorem trans (hst : IssuesOn writes s t) (htu : IssuesOn more t u) :
    IssuesOn (writes ++ more) s u where
  acts := by
    obtain ⟨acts, ht, hacts⟩ := hst.acts
    obtain ⟨others, hu, hothers⟩ := htu.acts
    rw [hst.mode] at hothers
    exact ⟨acts ++ others, by rw [hu, ht, List.append_assoc], hacts.append hothers⟩
  pending kind := by
    rw [htu.pending, hst.pending, hst.mode, List.append_assoc]
    cases s.outbox.mode with
    | immediate => rfl
    | batching => exact congrArg _ (writesOf_append kind writes more).symm
  mode := htu.mode.trans hst.mode
  registry := htu.registry.trans hst.registry

/-- A run that only looked, or put off events. -/
theorem of_quiet {acts : List Act} (htrace : t.trace = s.trace ++ acts) (hquiet : Quiet acts)
    (houtbox : ∃ events, t.outbox = { s.outbox with events })
    (hregistry : t.registry = s.registry) : IssuesOn [] s t := by
  obtain ⟨events, houtbox⟩ := houtbox
  refine ⟨⟨acts, htrace, .of_quiet _ hquiet⟩, fun kind => ?_, by rw [houtbox], hregistry⟩
  have hnone : keptOf s.outbox.mode kind [] = [] := by cases s.outbox.mode <;> rfl
  rw [houtbox, hnone, List.append_nil]
  cases kind <;> rfl

theorem refl (s : Site σ E) : IssuesOn [] s s :=
  of_quiet (List.append_nil _).symm quiet_nil ⟨_, rfl⟩ rfl

theorem trigger (T : EntityType E) (h : Handle) (event : Event) (s : Site σ E) :
    IssuesOn [] s (trigger T h event s).2 := by
  rcases trigger_cases T h event s with ⟨-, hrun⟩ | hrun | ⟨-, hrun⟩ <;> rw [hrun]
  · exact refl s
  · have hlooks := looksOn_fire T h event s
    obtain ⟨acts, htrace, hquiet⟩ := hlooks.trace
    exact of_quiet htrace hquiet ⟨_, hlooks.outbox⟩ (sameStore_fire T h event s).registry
  · exact of_quiet (List.append_nil _).symm quiet_nil ⟨_, rfl⟩ rfl

variable [Session σ]

theorem handOver (kind : BatchKind) (r : Request) (s : Site σ E) :
    IssuesOn [(kind, r)] s (handOver kind r s).2 := by
  rcases handOver_cases kind r s with ⟨hmode, hrun⟩ | ⟨hmode, hrun⟩ <;> rw [hrun]
  · refine ⟨⟨_, rfl, hmode ▸ .of_sending kind r⟩, fun k => ?_, rfl, rfl⟩
    rw [hmode]
    exact (List.append_nil _).symm
  · refine ⟨⟨_, rfl, hmode ▸ .of_pushed kind r⟩, fun k => ?_,
      Outbox.mode_keeping kind r s.outbox, rfl⟩
    rw [hmode]
    show (s.outbox.keeping kind r).pending k = s.outbox.pending k ++ writesOf k [(kind, r)]
    rw [Outbox.pending_keeping, writesOf_singleton]

theorem of_handOver (kind : BatchKind) {r : Request} {answer : Except Stop Unit}
    (h : (do let _ ← Op.handOver kind r : Op σ E Unit) s = (answer, t)) :
    IssuesOn [(kind, r)] s t := by
  have hhand := handOver kind r s
  rwa [← discard_apply, h] at hhand

end IssuesOn

/-! ### Deleting the rows of a key -/

/-- The kind of group that the writes of a row are sent in. -/
def EntityMeta.kindOf (em : EntityMeta) : RowName → BatchKind
  | .entity _ _ => if em.isClusteredCounter then .counter else .logged
  | .counter _ _ _ => .counter

/-- The delete of a row, of the kind of the row. -/
structure EntityMeta.DeletesRow (em : EntityMeta) (write : BatchKind × Request) (row : RowName) :
    Prop where
  kind : write.1 = em.kindOf row
  deletes : write.2.Deletes em row

namespace Call

variable [Session σ] {c : Call E} {s t : Site σ E} {types : List (String × EntityMeta)}
  {key encoded : List Value}

/-- One delete for each of these counters. -/
theorem issues_removeCounters (hencoded : Registry.encodedKey c.entityMeta key = .ok encoded)
    {properties : List PropertyMeta} (hs : s.registry.Sound types)
    (hrun : (properties.forM fun pm => do
      let request ← (← get).registry.bindShared .delete c.entityMeta pm key
        (Levels.writeProperty c.options pm c.entityMeta)
      let _ ← pushCounter request : Op σ E PUnit) s = (.ok (), t)) :
    ∃ writes, IssuesOn writes s t ∧ List.Forall₂ c.entityMeta.DeletesRow writes
      (properties.map fun pm => .counter c.entityMeta.className (keyText encoded) pm.name) := by
  induction properties generalizing s with
  | nil =>
    obtain ⟨-, rfl⟩ := Prod.mk.inj hrun
    exact ⟨[], .refl s, .nil⟩
  | cons pm rest ih =>
    rw [forM_cons] at hrun
    obtain ⟨_, u, hone, hrest⟩ := bind_eq_ok hrun
    rw [get_bind_apply] at hone
    obtain ⟨request, v, hbind, hpush⟩ := bind_eq_ok hone
    obtain ⟨hbind, rfl⟩ := lift_eq_ok hbind
    have hissues := IssuesOn.of_handOver .counter hpush
    obtain ⟨writes, hwrites, hrows⟩ := ih (hissues.registry ▸ hs) hrest
    exact ⟨_, hissues.trans hwrites,
      .cons ⟨rfl, hs.deletes_of_bindShared hencoded hbind⟩ hrows⟩

variable (hs : s.registry.Sound types) (hsole : SoleClass types c.entityMeta)
  (hserves : c.entityMeta.isClusteredCounter = false → s.registry.ServesRows c.entityMeta)
include hs hsole hserves

/-- A removal by key that succeeds deletes every row of the key. -/
theorem issues_removeByKey (hrun : c.removeByKey key s = (.ok (), t)) :
    ∃ encoded writes, Registry.encodedKey c.entityMeta key = .ok encoded ∧ IssuesOn writes s t ∧
      List.Forall₂ c.entityMeta.DeletesRow writes (c.entityMeta.rowsOf encoded) := by
  unfold removeByKey at hrun
  unfold EntityMeta.rowsOf
  cases hclustered : c.entityMeta.isClusteredCounter with
  | true =>
    rw [hclustered, if_pos rfl, get_bind_apply] at hrun
    obtain ⟨request, u, hbind, hpush⟩ := bind_eq_ok hrun
    obtain ⟨hbind, rfl⟩ := lift_eq_ok hbind
    obtain ⟨encoded, hencoded, hdeletes⟩ := hs.deletes_of_bindClustered hsole hbind
    exact ⟨encoded, _, hencoded, .of_handOver .counter hpush,
      .cons ⟨by simp [EntityMeta.kindOf, hclustered], hdeletes⟩ .nil⟩
  | false =>
    rw [hclustered, if_neg Bool.false_ne_true, get_bind_apply] at hrun
    obtain ⟨requests, u, hbind, hrun⟩ := bind_eq_ok hrun
    obtain ⟨hbind, rfl⟩ := lift_eq_ok hbind
    obtain ⟨encoded, request, hencoded, rfl, hdeletes⟩ :=
      (hserves hclustered).deletes_of_bindRemoval hbind
    obtain ⟨_, v, hrow, hcounters⟩ := bind_eq_ok hrun
    rw [forM_cons] at hrow
    obtain ⟨_, w, hpush, hnone⟩ := bind_eq_ok hrow
    obtain ⟨-, rfl⟩ := Prod.mk.inj hnone
    have hissues := IssuesOn.of_handOver .logged hpush
    obtain ⟨writes, hwrites, hrows⟩ :=
      issues_removeCounters hencoded (hissues.registry ▸ hs) hcounters
    have hcounterRows : c.entityMeta.counters.map (c.entityMeta.counterRow encoded) =
        c.entityMeta.counters.map fun pm =>
          .counter c.entityMeta.className (keyText encoded) pm.name :=
      List.map_congr_left fun pm _ => by simp [EntityMeta.counterRow, hclustered]
    refine ⟨encoded, _, hencoded, hissues.trans hwrites, ?_⟩
    rw [if_neg Bool.false_ne_true, hcounterRows]
    exact .cons ⟨by simp [EntityMeta.kindOf, hclustered], hdeletes⟩ hrows

/-- A removal of an entity that succeeds deletes every row of the key that the entity has by then. -/
theorem issues_remove {entity : E} (hrun : c.remove entity s = (.ok (), t)) :
    ∃ encoded writes, Registry.encodedKey c.entityMeta
        (c.type.key (c.type.after .preRemove s.outbox.mode entity)) = .ok encoded ∧
      IssuesOn writes s t ∧
      List.Forall₂ c.entityMeta.DeletesRow writes (c.entityMeta.rowsOf encoded) := by
  have hcell := Workspace.cell?_add_self s.workspace entity
  have hadding : IssuesOn [] s (s.adding entity) :=
    .of_quiet (List.append_nil _).symm quiet_nil ⟨_, rfl⟩ rfl
  rw [remove_apply] at hrun
  obtain ⟨_, u, htrigger, hrun⟩ := bind_eq_ok hrun
  have hbefore : IssuesOn [] s u := by
    have hfired := IssuesOn.trigger c.type (s.workspace.add entity).1 .preRemove (s.adding entity)
    rw [htrigger] at hfired
    exact hadding.trans hfired
  have hcell' := cell?_of_trigger (s := s.adding entity) (by decide) hcell htrigger
  unfold removeRest at hrun
  rw [bind_of_ok (by rw [cell_apply, hcell'])] at hrun
  obtain ⟨_, v, hremove, hlast⟩ := bind_eq_ok hrun
  obtain ⟨encoded, writes, hencoded, hissues, hrows⟩ :=
    issues_removeByKey (hbefore.registry ▸ hs) hsole (fun h => hbefore.registry ▸ hserves h) hremove
  have hafter := IssuesOn.trigger c.type (s.workspace.add entity).1 .postRemove v
  rw [hlast] at hafter
  refine ⟨encoded, writes, hencoded, ?_, hrows⟩
  have hall := (hbefore.trans hissues).trans hafter
  rwa [List.append_nil] at hall

end Call

end WideColumn
