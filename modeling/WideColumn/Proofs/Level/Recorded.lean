import WideColumn.Proofs.Window.Pending

/-!
# Options recorded on proxies

What is missing on a proxy is read with the options recorded on it. These are the options of the
call that made the proxy or wrote it last: only a call that returns a new proxy and a successful
update record options, and everything else leaves them alone. Main statement: `Recorded.level_eq`.
-/

namespace WideColumn

open Op

variable {σ E : Type}

/-! ### What leaves the options alone -/

/-- The options of the cell of a handle are the same. -/
def Workspace.SameOptions (h : Handle) (w w' : Workspace E) : Prop :=
  ∀ cell, w.cell? h = some cell → ∃ cell', w'.cell? h = some cell' ∧ cell'.options = cell.options

/-- A change of another cell, or of anything but the options of this one. -/
theorem Workspace.sameOptions_modify {h handle : Handle} (w : Workspace E) {f : Cell E → Cell E}
    (hf : handle = h → ∀ c, (f c).options = c.options) : w.SameOptions h (w.modify handle f) := by
  intro cell hcell
  rw [Workspace.cell?_modify, hcell]
  by_cases heq : handle = h
  · rw [if_pos heq]
    exact ⟨f cell, rfl, hf heq cell⟩
  · rw [if_neg heq]
    exact ⟨cell, rfl, rfl⟩

theorem Workspace.SameOptions.trans {h : Handle} {w w' w'' : Workspace E}
    (hfirst : w.SameOptions h w') (hsecond : w'.SameOptions h w'') : w.SameOptions h w'' := by
  intro cell hcell
  obtain ⟨cell', hcell', hoptions⟩ := hfirst cell hcell
  obtain ⟨cell'', hcell'', hoptions'⟩ := hsecond cell' hcell'
  exact ⟨cell'', hcell'', hoptions'.trans hoptions⟩

/-- The options of the cell of a handle are the same. -/
def KeepsOptions (h : Handle) (s t : Site σ E) : Prop := s.workspace.SameOptions h t.workspace

namespace KeepsOptions

variable {h : Handle}

theorem of_workspace {s t : Site σ E} (hworkspace : t.workspace = s.workspace) :
    KeepsOptions h s t := by
  intro cell hcell
  exact ⟨cell, by rw [hworkspace]; exact hcell, rfl⟩

theorem composes : Composes (KeepsOptions (σ := σ) (E := E) h) where
  refl _ := of_workspace rfl
  trans := Workspace.SameOptions.trans

/-- A change of another cell, or of anything but the options of this one. -/
theorem of_modify {s t : Site σ E} {handle : Handle} {f : Cell E → Cell E}
    (ht : t.workspace = s.workspace.modify handle f)
    (hf : handle = h → ∀ c, (f c).options = c.options) : KeepsOptions h s t := by
  unfold KeepsOptions
  rw [ht]
  exact s.workspace.sameOptions_modify hf

end KeepsOptions

theorem comparesCells_keepsOptions (h : Handle) :
    ComparesCells (KeepsOptions (σ := σ) (E := E) h) where
  toComposes := KeepsOptions.composes
  of_workspace := KeepsOptions.of_workspace
  of_entity ht := .of_modify ht fun _ _ => rfl

variable [Session σ]

/-- Only the cells of other handles get options. -/
theorem upholds_keepsOptions (h : Handle) :
    Upholds (fun s : Site σ E => h.index < s.workspace.cells.size) (fun handle => handle ≠ h)
      (KeepsOptions h) (fun _ _ => True) fun _ => True where
  toComposes := KeepsOptions.composes
  assuming himp cell hcell := himp (Workspace.lt_of_cell? hcell) cell hcell
  push _ := (comparesCells_keepsOptions h).handOver .logged _
  pushCounter _ := (comparesCells_keepsOptions h).handOver .counter _
  execute _ := (comparesCells_keepsOptions h).executeRequest _
  trigger := (comparesCells_keepsOptions h).trigger
  addEntity entity s cell hcell := by
    rw [addEntity_apply]
    refine ⟨cell, ?_, rfl⟩
    rw [← hcell]
    exact Workspace.cell?_add_of_lt _ _ _ (Workspace.lt_of_cell? hcell)
  fresh {s} entity hlt heq := by
    rw [← heq] at hlt
    exact Nat.lt_irrefl _ hlt
  modifyCell handle f _ hoptions _ s := .of_modify rfl fun _ => hoptions
  record {handle} f hne _ s := .of_modify rfl fun heq => absurd heq hne

/-- An update leaves the options alone, unless it is of this proxy and succeeds. -/
theorem keepsOptions_updateIn {h : Handle} (T : EntityType E) (p : Proxy) (options : Options)
    (s : Site σ E)
    (hleaves : p.handle = h → (Manager.updateIn T p options s).1.isOk = false) :
    KeepsOptions h s (Manager.updateIn T p options s).2 := by
  have hR := upholds_keepsOptions (σ := σ) (E := E) h
  by_cases hne : p.handle = h
  · have hfailed := hleaves hne
    revert hfailed
    unfold Manager.updateIn
    rcases Manager.call_cases T options s with ⟨e, he⟩ | ⟨c, hc, -⟩
    · rw [bind_of_error he]
      exact fun _ => KeepsOptions.composes.refl s
    · have hparts := c.upholds_updateParts hR (p := p) c.writesOn_true
        (fun _ _ _ _ _ _ _ _ => trivial)
        (fun _ _ => (comparesCells_keepsOptions h).bindUpdate _ _ _ _ _ _) s
      rw [bind_of_ok hc, Call.update_eq_updateParts]
      rcases hrun : c.updateParts p s with ⟨e | _, t⟩
      · rw [hrun] at hparts
        rw [bind_of_error hrun]
        exact fun _ => hparts
      · rw [bind_of_ok hrun]
        exact nofun
  · refine Manager.call_bind_at hR.toComposes fun c _ => ?_
    exact c.upholds_update hR c.writesOn_true (fun _ _ _ _ _ _ _ _ => trivial)
      (fun _ _ => (comparesCells_keepsOptions h).bindUpdate _ _ _ _ _ _) hne s

omit [Session σ] in
theorem KeepsOptions.immediately {α : Type} {h : Handle} {op : Op σ E α} {s : Site σ E}
    (hop : KeepsOptions h (Manager.atOnce s) (op (Manager.atOnce s)).2) :
    KeepsOptions h s (Manager.immediately op s).2 := hop

/-- Whether the call is an update. -/
def EntityCall.isUpdate : EntityCall E → Bool
  | write (.update _) _ => true
  | _ => false

/-- A call on entities that is no update leaves the options alone. -/
theorem EntityCall.keepsOptions_runIn {h : Handle} {call : EntityCall E}
    (hcall : call.isUpdate = false) (T : EntityType E) :
    Keeps (KeepsOptions (σ := σ) h) (call.runIn T) := by
  intro s
  refine upholds_runIn (upholds_keepsOptions h) KeepsOptions.immediately ?_
  cases call with
  | write w options =>
    cases w with
    | update p => cases hcall
    | _ => exact fun c _ => c.writesOn_true
  | find key options => exact fun _ _ _ _ _ _ _ => trivial
  | getProxy key options => trivial
  | refresh p options => exact fun _ _ _ _ _ _ _ => trivial
  | complete p => exact fun _ _ _ _ => ⟨fun _ _ _ => trivial, fun _ _ _ => trivial⟩

/-! ### Moves -/

/-- The call updates the proxy of the handle, and succeeds. -/
def ManagerCall.Updates (call : ManagerCall E) (h : Handle) (s : Site σ E) : Prop :=
  ∃ T p options, call = .update T p options ∧ p.handle = h ∧ (call.run s).1.isOk = true

/-- The call updates the proxy of the handle, and succeeds. -/
def WindowCall.Updates (call : WindowCall E) (h : Handle) (b : Batching σ E) : Prop :=
  ∃ now T p options, call = .update now T p options ∧ p.handle = h ∧ (call.run b).1.isOk = true

theorem ManagerCall.keepsOptions_run {h : Handle} {call : ManagerCall E} {s : Site σ E}
    (hnot : ¬ call.Updates h s) : KeepsOptions h s (call.run s).2 := by
  have hR := upholds_keepsOptions (σ := σ) (E := E) h
  cases hregister : call.isRegister with
  | true =>
    cases call with
    | register T =>
      show KeepsOptions h s ((do let _ ← Manager.register T : Op σ E Unit) s).2
      rw [discard_apply]
      exact .of_workspace (Manager.same_register T s).1
    | _ => cases hregister
  | false =>
    refine call.keeps_run_of KeepsOptions.composes
      (fun hop s => KeepsOptions.immediately (hR.runsAtOnce hop _)) hregister ?_
    rintro T p options rfl
    apply KeepsOptions.immediately
    refine keepsOptions_updateIn T p options _ fun heq => ?_
    rw [← Bool.not_eq_true]
    exact fun hok => hnot ⟨T, p, options, rfl, heq, hok⟩

theorem WindowCall.keepsOptions_run {h : Handle} {call : WindowCall E} {b : Batching σ E}
    (hnot : ¬ call.Updates h b) : KeepsOptions h b.site (call.run b).2.site := by
  have entity (now : Int) (T : EntityType E) (entityCall : EntityCall E)
      (hother : ∀ options, (entityCall.withOptions options).isUpdate = false) :
      KeepsOptions h b.site (entityCall.runInWindow now T b).2.site := by
    rcases entityCall.runInWindow_cases now T b with ⟨outbox, hrun⟩ | ⟨options, last, hrun⟩
    · rw [hrun]
      exact .of_workspace rfl
    · rw [hrun]
      exact EntityCall.keepsOptions_runIn (hother options) T b.site
  cases call with
  | startBatch => exact .of_workspace rfl
  | startBatchAt level => exact .of_workspace rfl
  | endBatch =>
    exact (comparesCells_keepsOptions h).sendAll b.site.outbox
      { b.site with outbox := b.site.outbox.reset b.defaultLevel }
  | cleanBatch => exact .of_workspace rfl
  | update now T p options =>
    have hcases := (Write.update p).run_inWindow_cases now T options b
    have hcall : (Write.update p).inWindow now T options = .update now T p options := rfl
    rw [hcall] at hcases
    rcases hcases with ⟨-, hrun⟩ | ⟨-, options', last, -, hrun⟩
    · rw [hrun]
      exact .of_workspace rfl
    · rw [hrun]
      refine keepsOptions_updateIn T p options' b.site fun heq => ?_
      rw [← Bool.not_eq_true]
      intro hok
      refine hnot ⟨now, T, p, options, rfl, heq, ?_⟩
      rw [hrun]
      exact hok
  | persist now T e options => exact entity now T (.write (.persist e) options) fun _ => rfl
  | remove now T e options => exact entity now T (.write (.remove e) options) fun _ => rfl
  | removeById now T key => exact entity now T (.write (.removeById key) .none) fun _ => rfl
  | find T key options => exact entity 0 T (.find key options) fun _ => rfl
  | getProxy T key options => exact entity 0 T (.getProxy key options) fun _ => rfl
  | refresh T p options => exact entity 0 T (.refresh p options) fun _ => rfl

/-! ### What records options -/

/-- The cell of the handle has the options. -/
def HasOptions (h : Handle) (options : Options) (s : Site σ E) : Prop :=
  ∃ cell, s.workspace.cell? h = some cell ∧ cell.options = options

omit [Session σ] in
theorem KeepsOptions.hasOptions {h : Handle} {options : Options} {s t : Site σ E}
    (hst : KeepsOptions h s t) (hs : HasOptions h options s) : HasOptions h options t := by
  obtain ⟨cell, hcell, hoptions⟩ := hs
  obtain ⟨cell', hcell', hsame⟩ := hst cell hcell
  exact ⟨cell', hcell', hsame.trans hoptions⟩

/-- Where the cell of the handle exists, every answer satisfies `P`. -/
def Answers {α : Type} (h : Handle) (P : α → Site σ E → Prop) (op : Op σ E α) : Prop :=
  ∀ s a t, (∃ cell, s.workspace.cell? h = some cell) → op s = (.ok a, t) → P a t

section

variable {α β : Type} {h : Handle}

omit [Session σ] in
theorem Answers.bind {x : Op σ E α} {f : α → Op σ E β} {P : β → Site σ E → Prop}
    (hx : Keeps (KeepsOptions h) x) (hf : ∀ a, Answers h P (f a)) : Answers h P (x >>= f) := by
  intro s b u ⟨cell, hcell⟩ hrun
  obtain ⟨a, t, ha, hb⟩ := bind_eq_ok hrun
  have hkept := hx s cell hcell
  rw [ha] at hkept
  obtain ⟨cell', hcell', -⟩ := hkept
  exact hf a t b u ⟨cell', hcell'⟩ hb

omit [Session σ] in
theorem Answers.lift_bind {r : Except Error α} {f : α → Op σ E β} {P : β → Site σ E → Prop}
    (hf : ∀ a, Answers h P (f a)) : Answers h P ((liftM r : Op σ E α) >>= f) :=
  Answers.bind (fun s => by
    rw [lift_apply]
    exact KeepsOptions.composes.refl s) hf

omit [Session σ] in
theorem Answers.get_bind {f : Site σ E → Op σ E β} {P : β → Site σ E → Prop}
    (hf : ∀ s, Answers h P (f s)) : Answers h P ((get : Op σ E (Site σ E)) >>= f) :=
  Answers.bind KeepsOptions.composes.refl hf

omit [Session σ] in
/-- A new entity has no options. -/
theorem hasOptions_addEntity (entity : E) (s : Site σ E) :
    HasOptions (s.workspace.add entity).1 .none (addEntity entity s).2 := by
  rw [addEntity_apply]
  exact ⟨⟨entity, .empty, [], .none⟩, by simp [Workspace.add, Workspace.cell?], rfl⟩

omit [Session σ] in
/-- What follows on a new entity answers `P`. -/
theorem addEntity_bind_eq_ok {entity : E} {f : Handle → Op σ E β} {P : β → Site σ E → Prop}
    (hf : ∀ h, Answers h P (f h)) {s t : Site σ E} {b : β}
    (hrun : (addEntity entity >>= f) s = (.ok b, t)) : P b t := by
  obtain ⟨h, u, hadd, hrest⟩ := bind_eq_ok hrun
  have hnew := hasOptions_addEntity entity s
  rw [addEntity_apply] at hadd hnew
  obtain ⟨hh, rfl⟩ := Prod.mk.inj hadd
  rw [← Except.ok.inj hh] at hrest
  obtain ⟨cell, hcell, -⟩ := hnew
  exact hf _ _ b t ⟨cell, hcell⟩ hrest

end

namespace Call

variable (c : Call E)

/-- The proxy of a handle, and the options of the call on its cell. -/
def Managed (p : Proxy) (s : Site σ E) : Prop := HasOptions p.handle c.proxyOptions s

omit [Session σ] in
theorem answers_manage (h : Handle) (key : List Value) (loaded : List String) :
    Answers (σ := σ) h c.Managed (c.manage h key loaded) := by
  rintro s p t ⟨cell, hcell⟩ hrun
  obtain ⟨hp, rfl⟩ := Prod.mk.inj hrun
  rw [← Except.ok.inj hp]
  refine ⟨{ cell with loaded, options := c.proxyOptions }, ?_, rfl⟩
  rw [Workspace.cell?_modify, if_pos rfl, hcell]
  rfl

theorem managed_of_persist {entity : E} {p : Proxy} {s t : Site σ E}
    (hrun : c.persist entity s = (.ok p, t)) : c.Managed p t := by
  refine addEntity_bind_eq_ok (fun h => ?_) hrun
  have hR := upholds_keepsOptions (σ := σ) (E := E) h
  have hcell : Keeps (KeepsOptions (σ := σ) (E := E) h) (Op.cell h) := fun s => by
    rw [cell_apply]
    split <;> exact hR.refl s
  have rest (key : List Value) : Answers h c.Managed (do
      c.writeCounters h key
      Op.trigger c.type h .postPersist
      c.manage h key (c.entityMeta.properties.map fun pm => pm.name) : Op σ E Proxy) :=
    .bind (c.upholds_writeCounters hR.writes c.writesOn_true h key) fun _ =>
      .bind (hR.trigger _ _ _) fun _ => c.answers_manage _ _ _
  refine .bind (hR.trigger _ _ _) fun _ => .bind hcell fun _ => ?_
  dsimp only
  split
  · exact .bind hcell fun _ => .get_bind fun _ => .lift_bind fun _ =>
      .bind (hR.push trivial) fun _ => rest _
  · exact rest _

theorem managed_of_find {key : List Value} {p : Proxy} {s t : Site σ E}
    (hrun : c.find key s = (.ok (some p), t)) : c.Managed p t := by
  rw [find_apply] at hrun
  obtain ⟨request, u, -, hrun⟩ := bind_eq_ok hrun
  obtain ⟨rows, v, -, hrun⟩ := bind_eq_ok hrun
  unfold receivedProxy at hrun
  split at hrun
  · cases Except.ok.inj (Prod.mk.inj hrun).1
  · obtain ⟨entity, w, -, hrun⟩ := bind_eq_ok hrun
    refine addEntity_bind_eq_ok (P := fun p? s => ∀ p, p? = some p → c.Managed p s)
      (fun h => ?_) hrun p rfl
    have hR := upholds_keepsOptions (σ := σ) (E := E) h
    refine .bind (hR.trigger _ _ _) fun _ => ?_
    intro s p? t hcell hrun p hp
    obtain ⟨p', u, hmanage, hrun⟩ := bind_eq_ok hrun
    obtain ⟨hp?, rfl⟩ := Prod.mk.inj hrun
    have heq := (Except.ok.inj hp?).trans hp
    rw [← Option.some.inj heq]
    exact c.answers_manage _ _ _ s p' u hcell hmanage

omit [Session σ] in
theorem managed_of_proxyOfKey {key : List Value} {p : Proxy} {s t : Site σ E}
    (hrun : c.proxyOfKey key s = (.ok p, t)) : c.Managed p t := by
  obtain ⟨_, u, -, hrun⟩ := bind_eq_ok hrun
  obtain ⟨_, v, -, hrun⟩ := bind_eq_ok hrun
  exact addEntity_bind_eq_ok (fun _ => c.answers_manage _ _ _) hrun

/-- An update that succeeds found its proxy. -/
theorem managed_of_update {p : Proxy} {s t : Site σ E} (hrun : c.update p s = (.ok (), t)) :
    c.Managed p t := by
  rw [update_eq_updateParts] at hrun
  obtain ⟨_, u, hparts, hrecord⟩ := bind_eq_ok hrun
  obtain ⟨_, s₁, -, hparts⟩ := bind_eq_ok hparts
  obtain ⟨_, s₂, hdirty, hparts⟩ := bind_eq_ok hparts
  obtain ⟨cell, s₃, hcell, -⟩ := bind_eq_ok hdirty
  obtain ⟨hcell, -⟩ := cell_eq_ok hcell
  have hR := upholds_keepsOptions (σ := σ) (E := E) p.handle
  have hkept := c.upholds_writeDirty hR.writes (p := p) (fun _ _ _ _ _ _ _ _ => trivial)
    (fun _ _ => (comparesCells_keepsOptions p.handle).bindUpdate _ _ _ _ _ _) s₁
  rw [hdirty] at hkept
  have hrest := hR.bind (c.upholds_writeCounters hR.writes c.writesOn_true p.handle p.key)
    (fun _ => hR.trigger c.type p.handle .postUpdate) s₂
  rw [hparts] at hrest
  obtain ⟨cell', hcell', -⟩ := hR.trans hkept hrest cell hcell
  obtain ⟨-, rfl⟩ := Prod.mk.inj hrecord
  refine ⟨{ cell' with options := c.proxyOptions }, ?_, rfl⟩
  rw [Workspace.cell?_modify, if_pos rfl, hcell']
  rfl

end Call

namespace Manager

variable {α : Type} {T : EntityType E} {options : Options} {s t : Site σ E}

theorem hasOptions_of_persistIn {entity : Tracked E} {p : Proxy}
    (hrun : persistIn T entity options s = (.ok p, t)) : HasOptions p.handle options t := by
  obtain ⟨em, u, -, hrun⟩ := bind_eq_ok hrun
  cases entity with
  | proxy p => cases hrun
  | bare e =>
    obtain ⟨_, v, -, hrun⟩ := bind_eq_ok hrun
    obtain ⟨_, w, -, hrun⟩ := bind_eq_ok hrun
    obtain ⟨c, hc, hrun⟩ := call_bind_eq_ok hrun
    rw [← hc.proxyOptions_eq]
    exact c.managed_of_persist hrun

theorem hasOptions_of_findIn {key : List Value} {p : Proxy}
    (hrun : findIn T key options s = (.ok (some p), t)) : HasOptions p.handle options t := by
  obtain ⟨c, hc, hrun⟩ := call_bind_eq_ok hrun
  rw [← hc.proxyOptions_eq]
  exact c.managed_of_find hrun

omit [Session σ] in
theorem hasOptions_of_getProxyIn {key : List Value} {p : Proxy}
    (hrun : getProxyIn T key options s = (.ok p, t)) : HasOptions p.handle options t := by
  obtain ⟨c, hc, hrun⟩ := call_bind_eq_ok hrun
  rw [← hc.proxyOptions_eq]
  exact c.managed_of_proxyOfKey hrun

theorem hasOptions_of_updateIn {p : Proxy} (hrun : updateIn T p options s = (.ok (), t)) :
    HasOptions p.handle options t := by
  obtain ⟨c, hc, hrun⟩ := call_bind_eq_ok hrun
  rw [← hc.proxyOptions_eq]
  exact c.managed_of_update hrun

omit [Session σ] in
/-- What was run at once answered the same with an outbox of its own. -/
theorem immediately_eq_ok {op : Op σ E α} {a : α} (hrun : immediately op s = (.ok a, t)) :
    op (atOnce s) = (.ok a, (op (atOnce s)).2) ∧
      t = { (op (atOnce s)).2 with outbox := s.outbox } := by
  rw [immediately_apply] at hrun
  obtain ⟨ha, rfl⟩ := Prod.mk.inj hrun
  exact ⟨Prod.ext ha rfl, rfl⟩

omit [Session σ] in
/-- The outbox does not matter for what is recorded. -/
theorem hasOptions_of_immediately {op : Op σ E α} {a : α} {h : Handle} {recorded : Options}
    (hop : ∀ {s t : Site σ E}, op s = (.ok a, t) → HasOptions h recorded t)
    (hrun : immediately op s = (.ok a, t)) : HasOptions h recorded t := by
  obtain ⟨hop', rfl⟩ := immediately_eq_ok hrun
  obtain ⟨cell, hcell, hoptions⟩ := hop hop'
  exact ⟨cell, hcell, hoptions⟩

theorem keepsOptions_proxyOfRow (h : Handle) (T : EntityType E) (em : EntityMeta) (row : Row) :
    Keeps (KeepsOptions (σ := σ) h) (proxyOfRow T em row) :=
  (upholds_keepsOptions (σ := σ) (E := E) h).proxyOfRow T em row

theorem hasOptions_of_proxyOfRow {em : EntityMeta} {row : Row} {p : Proxy}
    (hrun : proxyOfRow T em row s = (.ok p, t)) : HasOptions p.handle .none t := by
  obtain ⟨entity, u, -, hrun⟩ := bind_eq_ok hrun
  obtain ⟨h, v, hadd, hrun⟩ := bind_eq_ok hrun
  obtain ⟨_, w, htrigger, hrun⟩ := bind_eq_ok hrun
  obtain ⟨c, x, hcell, hrun⟩ := bind_eq_ok hrun
  obtain ⟨hp, rfl⟩ := Prod.mk.inj hrun
  obtain ⟨-, rfl⟩ := cell_eq_ok hcell
  obtain rfl : p = { handle := h, entityMeta := em, key := T.key c.entity } :=
    (Except.ok.inj hp).symm
  have hnew := hasOptions_addEntity entity u
  rw [addEntity_apply] at hadd hnew
  obtain ⟨hh, rfl⟩ := Prod.mk.inj hadd
  obtain rfl := Except.ok.inj hh
  have hR := upholds_keepsOptions (σ := σ) (E := E) (u.workspace.add entity).1
  have hfired := hR.trigger T (u.workspace.add entity).1 .postLoad
    { u with workspace := (u.workspace.add entity).2 }
  rw [htrigger] at hfired
  have hmarked : KeepsOptions (u.workspace.add entity).1 x (modifyCell (u.workspace.add entity).1
      (fun cell => { cell with loaded := loadedFromRow em row }) x).2 :=
    .of_modify rfl fun _ _ => rfl
  exact hmarked.hasOptions (hfired.hasOptions hnew)

theorem hasOptions_of_mapM_proxyOfRow {em : EntityMeta} {rows : List Row} {ps : List Proxy}
    {p : Proxy} (hp : p ∈ ps) (hrun : rows.mapM (proxyOfRow T em) s = (.ok ps, t)) :
    HasOptions p.handle .none t := by
  induction rows generalizing ps s with
  | nil =>
    rw [List.mapM_nil] at hrun
    obtain ⟨hps, -⟩ := Prod.mk.inj hrun
    rw [← Except.ok.inj hps] at hp
    cases hp
  | cons row rows ih =>
    rw [List.mapM_cons] at hrun
    obtain ⟨first, u, hfirst, hrun⟩ := bind_eq_ok hrun
    obtain ⟨rest, v, hrest, hrun⟩ := bind_eq_ok hrun
    obtain ⟨hps, rfl⟩ := Prod.mk.inj hrun
    rw [← Except.ok.inj hps] at hp
    rcases List.mem_cons.1 hp with rfl | hp
    · have hkept : Keeps (KeepsOptions p.handle) (rows.mapM (proxyOfRow (σ := σ) T em)) :=
        KeepsOptions.composes.mapM fun row _ => keepsOptions_proxyOfRow p.handle T em row
      have hkept := hkept u
      rw [hrest] at hkept
      exact hkept.hasOptions (hasOptions_of_proxyOfRow hfirst)
    · exact ih hp hrest

/-- The proxies of a query have no options. -/
theorem hasOptions_of_loadProxies {em : EntityMeta} {request : Request} {ps : List Proxy}
    {p : Proxy} (hp : p ∈ ps) (hrun : loadProxies T em request s = (.ok ps, t)) :
    HasOptions p.handle .none t := by
  refine hasOptions_of_immediately (fun hrun => ?_) hrun
  obtain ⟨rows, u, -, hrun⟩ := bind_eq_ok hrun
  exact hasOptions_of_mapM_proxyOfRow hp hrun

end Manager

/-! ### The options of a proxy -/

namespace Batching

variable {α : Type} {b c : Batching σ E} {options : Options} {op : Options → Op σ E α} {a : α}

omit [Session σ] in
/-- A call of a window that succeeds asked for no level. -/
theorem rejectLevel_bind_eq_ok {f : Unit → BatchOp σ E α}
    (hrun : (rejectLevel options >>= f) b = (.ok a, c)) :
    options.hasLevel = false ∧ f () b = (.ok a, c) := by
  cases hlevel : options.hasLevel with
  | true =>
    rw [rejectLevel_bind_of_level hlevel] at hrun
    cases hrun
  | false =>
    rw [rejectLevel_bind_of_no_level hlevel] at hrun
    exact ⟨rfl, hrun⟩

omit [Session σ] in
/-- A write of a window that succeeds is a write of the site at no level of its own. -/
theorem write_eq_ok {now : Int} (hrun : (rejectLevel options >>= fun _ =>
      stamped now options >>= fun o => onSite (op o)) b = (.ok a, c)) :
    ∃ options' : Options, options'.level = options.level ∧ op options' b.site = (.ok a, c.site) := by
  obtain ⟨-, hrun⟩ := rejectLevel_bind_eq_ok hrun
  obtain ⟨options', last, hstamped, hoptions⟩ := stamped_options now options b
  rw [bind_of_ok hstamped] at hrun
  obtain ⟨hanswer, rfl⟩ := Prod.mk.inj hrun
  exact ⟨options', hoptions.level, Prod.ext hanswer rfl⟩

omit [Session σ] in
/-- A read of a window that succeeds is a read of the site. -/
theorem read_eq_ok {op : Op σ E α}
    (hrun : (rejectLevel options >>= fun _ => onSite op) b = (.ok a, c)) :
    op b.site = (.ok a, c.site) := by
  obtain ⟨-, hrun⟩ := rejectLevel_bind_eq_ok hrun
  obtain ⟨hanswer, rfl⟩ := Prod.mk.inj hrun
  exact Prod.ext hanswer rfl

end Batching

/-- The call made the proxy of the handle or updated it, at this level of its own if any. A call of
a window has none, and neither has a query. -/
inductive Records (b : Batching σ E) : Handle → Option Level → Batching σ E → Prop
  | persist {T : EntityType E} {entity : Tracked E} {options : Options} {p : Proxy}
      {s : Site σ E} : Manager.persist T entity options b.site = (.ok p, s) →
      Records b p.handle options.level { b with site := s }
  | find {T : EntityType E} {key : List Value} {options : Options} {p : Proxy} {s : Site σ E} :
      Manager.find T key options b.site = (.ok (some p), s) →
      Records b p.handle options.level { b with site := s }
  | getProxy {T : EntityType E} {key : List Value} {options : Options} {p : Proxy}
      {s : Site σ E} : Manager.getProxy T key options b.site = (.ok p, s) →
      Records b p.handle options.level { b with site := s }
  | update {T : EntityType E} {p : Proxy} {options : Options} {s : Site σ E} :
      Manager.update T p options b.site = (.ok (), s) →
      Records b p.handle options.level { b with site := s }
  | getSlice {T : EntityType E} {slice : SliceQuery} {ps : List Proxy} {p : Proxy}
      {s : Site σ E} : Manager.getSlice T slice b.site = (.ok ps, s) → p ∈ ps →
      Records b p.handle none { b with site := s }
  | typedQuery {T : EntityType E} {query : String} {values : List Value} {ps : List Proxy}
      {p : Proxy} {s : Site σ E} : Manager.typedQuery T query values b.site = (.ok ps, s) →
      p ∈ ps → Records b p.handle none { b with site := s }
  | indexedQuery {T : EntityType E} {condition : IndexCondition} {ps : List Proxy} {p : Proxy}
      {s : Site σ E} : Manager.indexedQuery T condition b.site = (.ok ps, s) → p ∈ ps →
      Records b p.handle none { b with site := s }
  | persistInWindow {now : Int} {T : EntityType E} {entity : Tracked E} {options : Options}
      {p : Proxy} {c : Batching σ E} : Batching.persist now T entity options b = (.ok p, c) →
      Records b p.handle options.level c
  | findInWindow {T : EntityType E} {key : List Value} {options : Options} {p : Proxy}
      {c : Batching σ E} : Batching.find T key options b = (.ok (some p), c) →
      Records b p.handle options.level c
  | getProxyInWindow {T : EntityType E} {key : List Value} {options : Options} {p : Proxy}
      {c : Batching σ E} : Batching.getProxy T key options b = (.ok p, c) →
      Records b p.handle options.level c
  | updateInWindow {now : Int} {T : EntityType E} {p : Proxy} {options : Options}
      {c : Batching σ E} : Batching.update now T p options b = (.ok (), c) →
      Records b p.handle options.level c

/-- The level of the call that made the proxy of the handle or updated it last. -/
inductive Recorded (h : Handle) (level : Option Level) : Batching σ E → Prop
  | call {b c : Batching σ E} : Records b h level c → Recorded h level c
  | restart {b : Batching σ E} : Recorded h level b → Recorded h level (.ofSite b.site)
  | manager {b : Batching σ E} (call : ManagerCall E) : Recorded h level b →
      ¬ call.Updates h b.site → Recorded h level { b with site := (call.run b.site).2 }
  | window {b : Batching σ E} (call : WindowCall E) : Recorded h level b → ¬ call.Updates h b →
      Recorded h level (call.run b).2
  | complete {b : Batching σ E} (T : EntityType E) (p : Proxy) : Recorded h level b →
      Recorded h level (Batching.complete T p b).2
  | edit {b : Batching σ E} {w : Workspace E} : Recorded h level b →
      ProxyEdit b.site.workspace w → Recorded h level { b with site.workspace := w }

/-- The cell of the handle has options at the level. -/
def HasLevel (h : Handle) (level : Option Level) (s : Site σ E) : Prop :=
  ∃ cell, s.workspace.cell? h = some cell ∧ cell.options.level = level

omit [Session σ] in
theorem HasOptions.hasLevel {h : Handle} {options : Options} {s : Site σ E}
    (hs : HasOptions h options s) : HasLevel h options.level s := by
  obtain ⟨cell, hcell, rfl⟩ := hs
  exact ⟨cell, hcell, rfl⟩

omit [Session σ] in
theorem KeepsOptions.hasLevel {h : Handle} {level : Option Level} {s t : Site σ E}
    (hst : KeepsOptions h s t) (hs : HasLevel h level s) : HasLevel h level t := by
  obtain ⟨cell, hcell, hlevel⟩ := hs
  obtain ⟨cell', hcell', hsame⟩ := hst cell hcell
  exact ⟨cell', hcell', (congrArg Options.level hsame).trans hlevel⟩

/-- What a call records is the level that it was given. -/
theorem Records.hasLevel {b c : Batching σ E} {h : Handle} {level : Option Level}
    (hrecords : Records b h level c) : HasLevel h level c.site := by
  have query {T : EntityType E} {em : EntityMeta} {request : Request} {ps : List Proxy}
      {p : Proxy} {s t : Site σ E} (hp : p ∈ ps)
      (hrun : Manager.loadProxies T em request s = (.ok ps, t)) : HasLevel p.handle none t :=
    (Manager.hasOptions_of_loadProxies hp hrun).hasLevel
  cases hrecords with
  | persist hrun =>
    exact (Manager.hasOptions_of_immediately Manager.hasOptions_of_persistIn hrun).hasLevel
  | find hrun =>
    exact (Manager.hasOptions_of_immediately Manager.hasOptions_of_findIn hrun).hasLevel
  | getProxy hrun =>
    exact (Manager.hasOptions_of_immediately Manager.hasOptions_of_getProxyIn hrun).hasLevel
  | update hrun =>
    exact (Manager.hasOptions_of_immediately Manager.hasOptions_of_updateIn hrun).hasLevel
  | getSlice hrun hp =>
    obtain ⟨_, _, -, hrun⟩ := bind_eq_ok hrun
    obtain ⟨_, _, -, hrun⟩ := bind_eq_ok hrun
    exact query hp hrun
  | typedQuery hrun hp =>
    obtain ⟨_, _, -, hrun⟩ := bind_eq_ok hrun
    obtain ⟨_, _, -, hrun⟩ := bind_eq_ok hrun
    exact query hp hrun
  | indexedQuery hrun hp =>
    obtain ⟨_, _, -, hrun⟩ := bind_eq_ok hrun
    obtain ⟨_, _, -, hrun⟩ := bind_eq_ok hrun
    exact query hp hrun
  | persistInWindow hrun =>
    obtain ⟨options', hlevel, hrun⟩ := Batching.write_eq_ok hrun
    rw [← hlevel]
    exact (Manager.hasOptions_of_persistIn hrun).hasLevel
  | findInWindow hrun =>
    exact (Manager.hasOptions_of_findIn (Batching.read_eq_ok hrun)).hasLevel
  | getProxyInWindow hrun =>
    exact (Manager.hasOptions_of_getProxyIn (Batching.read_eq_ok hrun)).hasLevel
  | updateInWindow hrun =>
    obtain ⟨options', hlevel, hrun⟩ := Batching.write_eq_ok hrun
    rw [← hlevel]
    exact (Manager.hasOptions_of_updateIn hrun).hasLevel

omit [Session σ] in
/-- Changes through a proxy leave the options alone. -/
theorem ProxyEdit.sameOptions (h : Handle) {w w' : Workspace E} (hedit : ProxyEdit w w') :
    w.SameOptions h w' := by
  cases hedit with
  | set hset =>
    obtain ⟨pm, cell, -, -, rfl⟩ := Proxy.set_eq_ok hset
    exact w.sameOptions_modify fun _ _ => rfl
  | setValue hset =>
    obtain ⟨pm, cell, entity, -, -, -, rfl⟩ := Proxy.setValue_eq_ok hset
    exact w.sameOptions_modify fun _ _ => rfl
  | view hopen _ =>
    obtain ⟨pm, cell, -, -, -, rfl⟩ := Proxy.openView_eq_ok hopen
    refine Workspace.SameOptions.trans ?_ (Workspace.sameOptions_modify _ fun _ _ => rfl)
    exact w.sameOptions_modify fun _ _ => rfl
  | counter hopen =>
    obtain ⟨pm, cell, -, -, -, -, rfl⟩ := Proxy.openCounter_eq_ok hopen
    refine Workspace.SameOptions.trans ?_ (Workspace.sameOptions_modify _ fun _ _ => rfl)
    exact w.sameOptions_modify fun _ _ => rfl

/-- The cell of a proxy has the level of the call that made it or updated it last. -/
theorem Recorded.level_eq {b : Batching σ E} {h : Handle} {level : Option Level}
    (hb : Recorded h level b) : HasLevel h level b.site := by
  induction hb with
  | call hrecords => exact hrecords.hasLevel
  | restart _ ih => exact ih
  | manager call _ hnot ih => exact (call.keepsOptions_run hnot).hasLevel ih
  | window call _ hnot ih => exact (call.keepsOptions_run hnot).hasLevel ih
  | @complete b T p _ ih =>
    have hcall : (EntityCall.complete p : EntityCall E).isUpdate = false := rfl
    exact (EntityCall.keepsOptions_runIn hcall T b.site).hasLevel ih
  | @edit b w _ hedit ih =>
    have hkept : KeepsOptions h b.site { b.site with workspace := w } := hedit.sameOptions h
    exact hkept.hasLevel ih

end WideColumn
