import WideColumn.Proofs.Operation.Keeps

/-!
# Calls of the manager

How an operation of the manager gets from its arguments to the operation on entities: the metadata
of the type is looked up, the level of an open window is put into the options, and the arguments are
checked. None of that changes the site, so a relation that the operation on entities keeps is kept
by the operation of the manager (`call_bind_at`, `persistIn_at`, `removeIn_at`).
-/

namespace WideColumn.Manager

open Op

variable {σ E α : Type}

/-- A call as the manager makes it on a site. -/
structure IsCall (T : EntityType E) (options : Options) (s : Site σ E) (c : Call E) : Prop where
  type_eq : c.type = T
  lookup_eq : s.types.lookup T.typeName = some c.entityMeta
  /-- An open window puts its level into the options. -/
  applyWindow_eq : Levels.applyWindow options s.outbox.batchLevel = .ok c.options
  proxyOptions_eq : c.proxyOptions = options

/-- The error for a type that is not registered. -/
def notRegistered (T : EntityType E) : Stop :=
  .failed (.ofViolation T.shortName .notRegistered
    s!"The entity class '{T.shortName}' is not managed")

theorem entityMeta_apply (T : EntityType E) (s : Site σ E) :
    entityMeta T s = match s.types.lookup T.typeName with
      | some em => (.ok em, s)
      | none => (.error (notRegistered T), s) := by
  unfold entityMeta
  rw [get_bind_apply]
  cases s.types.lookup T.typeName <;> rfl

theorem entityMeta_of_lookup {T : EntityType E} {s : Site σ E} {em : EntityMeta}
    (h : s.types.lookup T.typeName = some em) : entityMeta T s = (.ok em, s) := by
  rw [entityMeta_apply, h]

theorem entityMeta_of_no_lookup {T : EntityType E} {s : Site σ E}
    (h : s.types.lookup T.typeName = none) :
    entityMeta T s = (.error (notRegistered T), s) := by
  rw [entityMeta_apply, h]

theorem call_of_lookup {T : EntityType E} {options effective : Options} {s : Site σ E}
    {em : EntityMeta} (hem : s.types.lookup T.typeName = some em)
    (hwindow : Levels.applyWindow options s.outbox.batchLevel = .ok effective) :
    call T options s =
      (.ok { type := T, entityMeta := em, options := effective, proxyOptions := options }, s) := by
  unfold call windowOptions
  rw [bind_of_ok (entityMeta_of_lookup hem)]
  rw [bind_of_ok (a := effective) (t := s) (by rw [get_bind_apply, lift_apply, hwindow]; rfl)]
  rfl

theorem call_of_conflict {T : EntityType E} {options : Options} {s : Site σ E} {em : EntityMeta}
    {e : Error} (hem : s.types.lookup T.typeName = some em)
    (hwindow : Levels.applyWindow options s.outbox.batchLevel = .error e) :
    call T options s = (.error (.failed e), s) := by
  unfold call windowOptions
  rw [bind_of_ok (entityMeta_of_lookup hem)]
  exact bind_of_error (by rw [get_bind_apply, lift_apply, hwindow]; rfl) _

theorem call_of_no_lookup {T : EntityType E} {options : Options} {s : Site σ E}
    (h : s.types.lookup T.typeName = none) :
    call T options s = (.error (notRegistered T), s) := by
  unfold call
  exact bind_of_error (entityMeta_of_no_lookup h) _

/-- Making a call changes nothing; the call that is made is of the given type and options. -/
theorem call_cases (T : EntityType E) (options : Options) (s : Site σ E) :
    (∃ e, call T options s = (.error e, s)) ∨
      ∃ c, call T options s = (.ok c, s) ∧ IsCall T options s c := by
  cases hem : s.types.lookup T.typeName with
  | none => exact .inl ⟨_, call_of_no_lookup hem⟩
  | some em =>
    cases hwindow : Levels.applyWindow options s.outbox.batchLevel with
    | error e => exact .inl ⟨_, call_of_conflict hem hwindow⟩
    | ok effective => exact .inr ⟨_, call_of_lookup hem hwindow, ⟨rfl, hem, hwindow, rfl⟩⟩

/-- Inside a window the options of a call have the level of the window. -/
theorem IsCall.options_batching {T : EntityType E} {options : Options} {s : Site σ E}
    {c : Call E} (h : IsCall T options s c) (hmode : s.outbox.mode = .batching) :
    options.hasLevel = false ∧ c.options = options.withLevel s.outbox.level := by
  have hlevel : s.outbox.batchLevel = some s.outbox.level := by
    simp [Outbox.batchLevel, Outbox.isBatching, hmode]
  have hoptions := h.applyWindow_eq
  rw [hlevel] at hoptions
  simp only [Levels.applyWindow] at hoptions
  split at hoptions
  · cases hoptions
  · next hno => exact ⟨by simpa using hno, (Except.ok.inj hoptions).symm⟩

/-- The site that an operation works on when it runs at once. -/
def atOnce (s : Site σ E) : Site σ E := { s with outbox := .ofMode .immediate s.config.writeLevel }

theorem immediately_apply (op : Op σ E α) (s : Site σ E) :
    immediately op s =
      ((op (atOnce s)).1, { (op (atOnce s)).2 with outbox := s.outbox }) := rfl

/-- The call of an operation that runs at once. -/
def callOf (T : EntityType E) (em : EntityMeta) (options : Options) : Call E :=
  { type := T, entityMeta := em, options, proxyOptions := options }

theorem call_atOnce {T : EntityType E} {options : Options} {s : Site σ E} {em : EntityMeta}
    (hem : s.types.lookup T.typeName = some em) :
    call T options (atOnce s) = (.ok (callOf T em options), atOnce s) :=
  call_of_lookup hem rfl

variable {R : Site σ E → Site σ E → Prop}

/-- What is done with a call: it cannot be made, or it is done with the call that is made. -/
theorem call_bind_cases (T : EntityType E) (options : Options) (f : Call E → Op σ E α)
    (s : Site σ E) :
    (∃ e, (call T options >>= f) s = (.error e, s)) ∨
      ∃ c, IsCall T options s c ∧ (call T options >>= f) s = f c s := by
  rcases call_cases T options s with ⟨e, he⟩ | ⟨c, hc, hcall⟩
  · exact .inl ⟨e, bind_of_error he _⟩
  · exact .inr ⟨c, hcall, bind_of_ok hc _⟩

/-- A call with which something was done was made. -/
theorem call_bind_eq_ok {T : EntityType E} {options : Options} {f : Call E → Op σ E α} {a : α}
    {s t : Site σ E} (hrun : (call T options >>= f) s = (.ok a, t)) :
    ∃ c, IsCall T options s c ∧ f c s = (.ok a, t) := by
  rcases call_bind_cases T options f s with ⟨e, he⟩ | ⟨c, hcall, hc⟩
  · rw [he] at hrun
    cases hrun
  · exact ⟨c, hcall, hc.symm.trans hrun⟩

theorem call_bind_at (hR : Composes R) {T : EntityType E} {options : Options} {s : Site σ E}
    {f : Call E → Op σ E α} (hf : ∀ c, IsCall T options s c → R s (f c s).2) :
    R s ((call T options >>= f) s).2 := by
  rcases call_bind_cases T options f s with ⟨e, he⟩ | ⟨c, hcall, hc⟩
  · rw [he]
    exact hR.refl s
  · rw [hc]
    exact hf c hcall

theorem entityMeta_bind_at (hR : Composes R) {T : EntityType E} {s : Site σ E}
    {f : EntityMeta → Op σ E α}
    (hf : ∀ em, s.types.lookup T.typeName = some em → R s (f em s).2) :
    R s ((entityMeta T >>= f) s).2 := by
  cases hem : s.types.lookup T.typeName with
  | none =>
    rw [bind_of_error (entityMeta_of_no_lookup hem)]
    exact hR.refl s
  | some em =>
    rw [bind_of_ok (entityMeta_of_lookup hem)]
    exact hf em hem

variable [Session σ]

/-- An update of a registered type at once. -/
theorem update_apply {T : EntityType E} {s : Site σ E} {em : EntityMeta}
    (hem : s.types.lookup T.typeName = some em) (p : Proxy) (options : Options) :
    update T p options s =
      (((callOf T em options).update p (atOnce s)).1,
        { ((callOf T em options).update p (atOnce s)).2 with outbox := s.outbox }) := by
  unfold update
  rw [immediately_apply]
  unfold updateIn
  rw [bind_of_ok (call_atOnce hem)]

/-- An insert is refused and changes nothing, or it is an insert of the call that is made. -/
theorem persistIn_cases (T : EntityType E) (entity : Tracked E) (options : Options)
    (s : Site σ E) :
    (∃ e, persistIn T entity options s = (.error e, s)) ∨
      ∃ c e, entity = .bare e ∧ IsCall T options s c ∧
        persistIn T entity options s = c.persist e s := by
  unfold persistIn
  cases hem : s.types.lookup T.typeName with
  | none => exact .inl ⟨_, bind_of_error (entityMeta_of_no_lookup hem) _⟩
  | some em =>
    rw [bind_of_ok (entityMeta_of_lookup hem)]
    cases entity with
    | proxy p => exact .inl ⟨_, rfl⟩
    | bare e =>
      dsimp only
      cases hcheck : checkCounterRow T em e options with
      | error error => exact .inl ⟨_, lift_bind_of_error rfl _ s⟩
      | ok _ =>
        rw [lift_bind_of_ok rfl]
        cases hkey : em.id.encodeComponents (T.key e) with
        | error error => exact .inl ⟨_, lift_bind_of_error rfl _ s⟩
        | ok _ =>
          rw [lift_bind_of_ok rfl]
          rcases call_bind_cases T options (fun c => c.persist e) s with hfail | ⟨c, hc, hrun⟩
          · exact .inl hfail
          · exact .inr ⟨c, e, rfl, hc, hrun⟩

/-- An update is refused and changes nothing, or it is an update of the call that is made. -/
theorem updateIn_cases (T : EntityType E) (p : Proxy) (options : Options) (s : Site σ E) :
    (∃ e, updateIn T p options s = (.error e, s)) ∨
      ∃ c, IsCall T options s c ∧ updateIn T p options s = c.update p s := by
  unfold updateIn
  exact call_bind_cases T options (fun c => c.update p) s

/-- A removal is refused and changes nothing, or it is a removal of the call that is made. -/
theorem removeIn_cases (T : EntityType E) (entity : Tracked E) (options : Options)
    (s : Site σ E) :
    (∃ e, removeIn T entity options s = (.error e, s)) ∨
      ∃ c e, IsCall T options s c ∧ removeIn T entity options s = c.remove e s := by
  unfold removeIn
  rcases call_cases T options s with ⟨e, he⟩ | ⟨c, hc, hcall⟩
  · exact .inl ⟨e, bind_of_error he _⟩
  · rw [bind_of_ok hc]
    cases entity with
    | bare e => exact .inr ⟨c, e, hcall, rfl⟩
    | proxy p =>
      cases hcell : s.workspace.cell? p.handle with
      | none => exact .inl ⟨noCell, bind_of_error (by rw [cell_apply, hcell]) _⟩
      | some cell =>
        exact .inr ⟨c, cell.entity, hcall, bind_of_ok (by rw [cell_apply, hcell]) _⟩

theorem persistIn_at (hR : Composes R) {T : EntityType E} {entity : Tracked E}
    {options : Options} {s : Site σ E}
    (hpersist : ∀ c e, entity = .bare e → IsCall T options s c → R s (c.persist e s).2) :
    R s (persistIn T entity options s).2 := by
  rcases persistIn_cases T entity options s with ⟨e, he⟩ | ⟨c, e, hentity, hc, hrun⟩
  · rw [he]
    exact hR.refl s
  · rw [hrun]
    exact hpersist c e hentity hc

theorem removeIn_at (hR : Composes R) {T : EntityType E} {entity : Tracked E}
    {options : Options} {s : Site σ E}
    (hremove : ∀ c e, IsCall T options s c → R s (c.remove e s).2) :
    R s (removeIn T entity options s).2 := by
  rcases removeIn_cases T entity options s with ⟨e, he⟩ | ⟨c, e, hc, hrun⟩
  · rw [he]
    exact hR.refl s
  · rw [hrun]
    exact hremove c e hc

/-- Reading what is missing runs at once, with the options recorded on the proxy. -/
theorem complete_apply {T : EntityType E} {p : Proxy} {s : Site σ E} {em : EntityMeta}
    {cell : Cell E} (hem : s.types.lookup T.typeName = some em)
    (hcell : s.workspace.cell? p.handle = some cell) : complete T p s =
      (((callOf T em cell.options).complete p (atOnce s)).1,
        { ((callOf T em cell.options).complete p (atOnce s)).2 with outbox := s.outbox }) := by
  unfold complete
  rw [bind_of_ok (entityMeta_of_lookup hem), bind_of_ok (by rw [cell_apply, hcell])]
  rfl

/-- What every such read keeps. -/
theorem complete_at (hR : Composes R) {T : EntityType E} {p : Proxy} {s : Site σ E}
    (hcomplete : ∀ em cell, s.types.lookup T.typeName = some em →
      s.workspace.cell? p.handle = some cell →
      R s (immediately ((callOf T em cell.options).complete p) s).2) :
    R s (complete T p s).2 := by
  unfold complete
  refine entityMeta_bind_at hR fun em hem => hR.bind_at ?_ fun cell t hcell => ?_
  · rw [cell_apply]
    split <;> exact hR.refl s
  · obtain ⟨hcell, rfl⟩ := cell_eq_ok hcell
    exact hcomplete em cell hem hcell

end WideColumn.Manager
