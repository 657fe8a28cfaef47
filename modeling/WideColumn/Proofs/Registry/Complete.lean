import WideColumn.Proofs.Registry.Reachable

/-!
# What registration leaves in the registry

The statements of a class are kept only once all of them are there, so whatever is kept of a class
serves it (`EntityStatements.Serves`). The statements of the shared counter table are kept one by
one, and only while none of them is there: after a registration that failed in between, the first
few of them are there, and no later registration adds the others. Main statements:
`Reachable.isComplete` and `Reachable.of_partial`.
-/

namespace WideColumn

open Op

/-! ### The statements of a class -/

/-- Every statement that the shape of the class asks for is there. -/
structure EntityStatements.Serves (statements : EntityStatements) (em : EntityMeta) : Prop where
  insert : em.isClusteredCounter = false → statements.insert.isSome = true
  selectEntity : em.isClusteredCounter = false → statements.selectEntity.isSome = true
  selectField : em.isClusteredCounter = false → ∀ pm ∈ em.plain,
    (statements.selectFields.lookup pm.name).isSome = true
  deletes : em.isClusteredCounter = false →
    statements.deletes.map Prod.fst = (Template.deletes em).map Prod.fst
  clusteredCounter : em.isClusteredCounter = true → ∀ entry ∈ Template.clusteredCounters em,
    (statements.clusteredCounters.lookup entry.1).isSome = true

theorem isSome_lookup_iff {α β : Type} [BEq α] [LawfulBEq α] {entries : List (α × β)} {key : α} :
    (entries.lookup key).isSome = true ↔ key ∈ entries.map Prod.fst := by
  rw [List.lookup_isSome_iff, List.mem_map]
  simp only [beq_iff_eq, @eq_comm _ key]

/-- A run over a list gives one result for each element. -/
theorem Op.map_of_mapM_eq_ok {S α β κ : Type} {f : α → ExceptT Stop (StateM S) β} {g : α → κ}
    {k : β → κ} (hf : ∀ {x s y t}, f x s = (.ok y, t) → k y = g x) {xs : List α} {ys : List β}
    {s t : S} (h : xs.mapM f s = (.ok ys, t)) : ys.map k = xs.map g := by
  induction xs generalizing ys s t with
  | nil =>
    rw [List.mapM_nil] at h
    rw [← Except.ok.inj (Prod.mk.inj h).1]
    rfl
  | cons x xs ih =>
    rw [List.mapM_cons] at h
    obtain ⟨y, u, hy, h⟩ := bind_eq_ok h
    obtain ⟨rest, v, hrest, h⟩ := bind_eq_ok h
    rw [← Except.ok.inj (Prod.mk.inj h).1, List.map_cons, List.map_cons, hf hy, ih hrest]

variable {σ E : Type} [Session σ]

theorem keys_of_prepareAll {κ : Type} {texts : List (κ × String)} {s t : Site σ E}
    {ps : List (κ × Prepared)} (h : Op.prepareAll texts s = (.ok ps, t)) :
    ps.map Prod.fst = texts.map Prod.fst := by
  refine map_of_mapM_eq_ok (fun {x u y v} hrun => ?_) h
  obtain ⟨p, w, -, hrun⟩ := bind_eq_ok hrun
  rw [← Except.ok.inj (Prod.mk.inj hrun).1]

/-- Statements that were prepared serve their class. -/
theorem serves_of_prepareStatements {em : EntityMeta} {s t : Site σ E}
    {statements : EntityStatements} (h : prepareStatements em s = (.ok statements, t)) :
    statements.Serves em := by
  unfold prepareStatements at h
  split at h
  · next hem =>
    obtain ⟨clustered, u, hall, h⟩ := bind_eq_ok h
    obtain rfl := Except.ok.inj (Prod.mk.inj h).1
    have hplain : ¬ em.isClusteredCounter = false := by simp [hem]
    refine ⟨fun h => absurd h hplain, fun h => absurd h hplain, fun h => absurd h hplain,
      fun h => absurd h hplain, fun _ entry hentry => ?_⟩
    rw [isSome_lookup_iff, List.map_reverse, List.mem_reverse, keys_of_prepareAll hall]
    exact List.mem_map_of_mem hentry
  · next hem =>
    obtain ⟨insert, u₁, -, h⟩ := bind_eq_ok h
    obtain ⟨selectEntity, u₂, -, h⟩ := bind_eq_ok h
    obtain ⟨selectFields, u₃, hfields, h⟩ := bind_eq_ok h
    obtain ⟨deletes, u₄, hdeletes, h⟩ := bind_eq_ok h
    obtain rfl := Except.ok.inj (Prod.mk.inj h).1
    have hnames : selectFields.map Prod.fst = em.plain.map fun pm => pm.name := by
      refine map_of_mapM_eq_ok (fun {pm u y v} hrun => ?_) hfields
      cases htext : Template.selectField em pm with
      | error e =>
        rw [lift_bind_of_error htext] at hrun
        cases hrun
      | ok text =>
        rw [lift_bind_of_ok htext] at hrun
        obtain ⟨p, w, -, hrun⟩ := bind_eq_ok hrun
        rw [← Except.ok.inj (Prod.mk.inj hrun).1]
    refine ⟨fun _ => rfl, fun _ => rfl, fun _ pm hpm => ?_, fun _ => keys_of_prepareAll hdeletes,
      fun h => absurd h hem⟩
    rw [isSome_lookup_iff, hnames]
    exact List.mem_map_of_mem hpm

/-! ### The statements of the shared counter table -/

/-- The actions on a shared counter, in the order in which their statements are prepared. -/
def Template.sharedActions : List CounterAction := Template.sharedCounters.map Prod.fst

/-- Whether the class keeps its counters in the shared table. -/
def EntityMeta.sharesCounters (em : EntityMeta) : Bool :=
  !em.isClusteredCounter && !em.counters.isEmpty

/-- The first few statements of the shared counter table are there, in the order of preparation the
last one first. -/
def Registry.SharesFirst (r : Registry) (count : Nat) : Prop :=
  r.sharedCounters.map Prod.fst = (Template.sharedActions.take count).reverse

/-- All statements of the shared counter table are there. -/
def Registry.SharesAll (r : Registry) : Prop := r.SharesFirst Template.sharedActions.length

/-- Preparing a statement of the shared counter table and keeping it. -/
def addPrepared (entry : CounterAction × String) : Op σ E Unit := do
  let p ← Op.prepare entry.2
  Op.modifyRegistry fun r => r.addShared entry.1 p

/-- Statements prepared and kept one by one: as many as the session accepted in a row. -/
theorem addPrepared_forM (texts : List (CounterAction × String)) (s : Site σ E) :
    ∃ count ≤ texts.length,
      ((texts.forM addPrepared : Op σ E PUnit) s).2.registry.sharedCounters.map Prod.fst =
          ((texts.map Prod.fst).take count).reverse ++ s.registry.sharedCounters.map Prod.fst ∧
        (((texts.forM addPrepared : Op σ E PUnit) s).1.isOk = true ↔ count = texts.length) := by
  induction texts generalizing s with
  | nil => exact ⟨0, Nat.le_refl 0, rfl, by simp [Except.isOk, Except.toBool]⟩
  | cons entry rest ih =>
    rw [forM_cons]
    rcases hp : Op.prepare entry.2 s with ⟨e | p, t⟩
    · have hone : addPrepared entry s = (.error e, t) := bind_of_error hp _
      have hregistry : t.registry = s.registry := by
        rw [prepare_apply] at hp
        rw [← (Prod.mk.inj hp).2]
      rw [bind_of_error hone]
      refine ⟨0, Nat.zero_le _, ?_, ?_⟩
      · rw [hregistry]
        rfl
      · simp [Except.isOk, Except.toBool]
    · have hregistry : t.registry = s.registry := by
        rw [prepare_apply] at hp
        rw [← (Prod.mk.inj hp).2]
      have hone : addPrepared entry s =
          (.ok (), { t with registry := t.registry.addShared entry.1 p }) := bind_of_ok hp _
      rw [bind_of_ok hone]
      obtain ⟨count, hcount, hkeys, hok⟩ :=
        ih { t with registry := t.registry.addShared entry.1 p }
      refine ⟨count + 1, Nat.succ_le_succ hcount, ?_, ?_⟩
      · rw [hkeys, List.map_cons, List.take_succ_cons, List.reverse_cons, List.append_assoc,
          ← hregistry]
        rfl
      · rw [hok, List.length_cons, Nat.add_left_inj]

/-- Registering a class that uses the shared counter table prepares its statements only if none of
them is there; it succeeds if all of them are prepared. -/
theorem maybePrepareShared_shared (em : EntityMeta) (s : Site σ E) :
    ((maybePrepareShared em s).2.registry.sharedCounters = s.registry.sharedCounters ∧
        (em.sharesCounters = true → (maybePrepareShared em s).2.registry.sharedCounters ≠ [])) ∨
      s.registry.sharedCounters = [] ∧ em.sharesCounters = true ∧
        ∃ count ≤ Template.sharedActions.length,
          (maybePrepareShared em s).2.registry.SharesFirst count ∧
            ((maybePrepareShared em s).1.isOk = true ↔ count = Template.sharedActions.length) := by
  unfold maybePrepareShared EntityMeta.sharesCounters
  split
  · next hshares =>
    unfold Op.prepareShared
    rw [get_bind_apply]
    by_cases hempty : s.registry.sharedCounters = []
    · right
      refine ⟨hempty, hshares, ?_⟩
      rw [if_pos (by rw [hempty]; rfl)]
      obtain ⟨count, hcount, hkeys, hok⟩ := addPrepared_forM Template.sharedCounters s
      refine ⟨count, hcount, ?_, hok⟩
      rw [hempty, List.map_nil, List.append_nil] at hkeys
      exact hkeys
    · left
      rw [if_neg (by simpa using hempty)]
      exact ⟨rfl, fun _ => hempty⟩
  · next hshares => exact .inl ⟨rfl, fun h => absurd h hshares⟩

/-! ### Registering a type -/

/-- The types, the configuration and the statements that were prepared by registering are the
same. -/
structure SameStatements (s t : Site σ E) : Prop where
  types : t.types = s.types
  config : t.config = s.config
  entities : t.registry.entities = s.registry.entities
  sharedCounters : t.registry.sharedCounters = s.registry.sharedCounters

theorem frames_sameStatements : Frames (SameStatements (σ := σ) (E := E)) := by
  refine .of_sameStore_prepares ⟨fun _ => ⟨rfl, rfl, rfl, rfl⟩, fun hst htu => ?_⟩
    (fun s t h => ?_) fun s t h => ?_
  · exact ⟨htu.types.trans hst.types, htu.config.trans hst.config,
      htu.entities.trans hst.entities, htu.sharedCounters.trans hst.sharedCounters⟩
  · exact ⟨h.types, h.config, by rw [h.registry], by rw [h.registry]⟩
  · exact ⟨h.types, h.config, h.entities, h.sharedCounters⟩

/-- A registration that failed may have left some statements of the shared counter table, but not
all of them. -/
structure RegisterFailed (s t : Site σ E) : Prop where
  types : t.types = s.types
  config : t.config = s.config
  entities : t.registry.entities = s.registry.entities
  shared : t.registry.sharedCounters = s.registry.sharedCounters ∨
    s.registry.sharedCounters = [] ∧
      ∃ count < Template.sharedActions.length, t.registry.SharesFirst count

/-- A registration that succeeded added statements that serve the class, unless the class name has
statements. If the statements of the shared counter table are needed, some of them are there; if
none of them was there before, all of them are. -/
structure RegisterDone (T : EntityType E) (em : EntityMeta) (s t : Site σ E) : Prop where
  resolved : ∃ checked, T.entityMeta = .ok checked ∧ em = s.config.resolve checked
  types : t.types = (T.typeName, em) :: s.types
  config : t.config = s.config
  entities : s.registry.isRegistered em.className = true ∧
      t.registry.entities = s.registry.entities ∧
      t.registry.sharedCounters = s.registry.sharedCounters ∨
    s.registry.isRegistered em.className = false ∧
      ∃ statements, statements.Serves em ∧
        t.registry.entities = (em.className, statements) :: s.registry.entities ∧
        (em.sharesCounters = true → t.registry.sharedCounters ≠ []) ∧
        (t.registry.sharedCounters = s.registry.sharedCounters ∨
          s.registry.sharedCounters = [] ∧ t.registry.SharesAll)

theorem Registry.SharesFirst.ne_nil {r : Registry} {count : Nat} (h : r.SharesFirst count)
    (hcount : 0 < count) : r.sharedCounters ≠ [] := by
  intro hempty
  unfold SharesFirst at h
  rw [hempty] at h
  have hlength := congrArg List.length h
  simp [Template.sharedActions, Template.sharedCounters] at hlength
  omega

theorem sameStatements_prepareStatements (em : EntityMeta) :
    Keeps (SameStatements (σ := σ) (E := E)) (prepareStatements em) :=
  keeps_prepareStatements frames_sameStatements.toComposes (fun _ _ _ => ⟨rfl, rfl, rfl, rfl⟩) em

/-- The types, the configuration and the statements of classes are the same. -/
structure SameClassesAndTypes (s t : Site σ E) : Prop where
  types : t.types = s.types
  config : t.config = s.config
  entities : t.registry.entities = s.registry.entities

omit [Session σ] in
theorem composes_sameClassesAndTypes : Composes (SameClassesAndTypes (σ := σ) (E := E)) where
  refl _ := ⟨rfl, rfl, rfl⟩
  trans hst htu :=
    ⟨htu.types.trans hst.types, htu.config.trans hst.config, htu.entities.trans hst.entities⟩

theorem sameClassesAndTypes_maybePrepareShared (em : EntityMeta) :
    Keeps (SameClassesAndTypes (σ := σ) (E := E)) (maybePrepareShared em) :=
  keeps_maybePrepareShared composes_sameClassesAndTypes (fun _ _ _ => ⟨rfl, rfl, rfl⟩)
    (fun _ _ _ => ⟨rfl, rfl, rfl⟩) em

/-- How the preparation of the statements of a class ends. The types are left to the caller. -/
theorem registerStatements_cases (T : EntityType E) {em checked : EntityMeta} {s : Site σ E}
    (hchecked : T.entityMeta = .ok checked) (hem : em = s.config.resolve checked) :
    (∃ e, (Op.registerStatements em s).1 = .error e ∧
      RegisterFailed s (Op.registerStatements em s).2) ∨
    (Op.registerStatements em s).1 = .ok () ∧ RegisterDone T em s
      { (Op.registerStatements em s).2 with types := (T.typeName, em) :: s.types } := by
  rw [registerStatements_apply]
  split
  · next hregistered =>
    exact .inr ⟨rfl, ⟨checked, hchecked, hem⟩, rfl, rfl, .inl ⟨hregistered, rfl, rfl⟩⟩
  · next hnew =>
    have hsame := sameStatements_prepareStatements em s
    rcases hprepared : prepareStatements em s with ⟨e | statements, t⟩
    · rw [hprepared] at hsame
      rw [bind_of_error hprepared]
      exact .inl ⟨e, rfl, hsame.types, hsame.config, hsame.entities, .inl hsame.sharedCounters⟩
    · rw [hprepared] at hsame
      rw [bind_of_ok hprepared, keepStatements_eq]
      have hclasses := sameClassesAndTypes_maybePrepareShared em t
      have hshared := maybePrepareShared_shared em t
      rw [hsame.sharedCounters] at hshared
      rcases hrun : maybePrepareShared em t with ⟨e | _, u⟩
      · rw [hrun] at hclasses hshared
        rw [bind_of_error hrun]
        refine .inl ⟨e, rfl, hclasses.types.trans hsame.types, hclasses.config.trans hsame.config,
          hclasses.entities.trans hsame.entities, ?_⟩
        rcases hshared with ⟨hkept, -⟩ | ⟨hempty, -, count, hcount, hfirst, hok⟩
        · exact .inl hkept
        · refine .inr ⟨hempty, count, Nat.lt_of_le_of_ne hcount fun heq => ?_, hfirst⟩
          cases hok.2 heq
      · rw [hrun] at hclasses hshared
        rw [bind_of_ok hrun, modifyRegistry_apply]
        refine .inr ⟨rfl, ⟨checked, hchecked, hem⟩, rfl, hclasses.config.trans hsame.config,
          .inr ⟨by simpa using hnew, statements, serves_of_prepareStatements hprepared, ?_, ?_⟩⟩
        · show (em.className, statements) :: u.registry.entities = _
          rw [hclasses.entities, hsame.entities]
        · rcases hshared with ⟨hkept, hneeded⟩ | ⟨hempty, -, count, -, hfirst, hok⟩
          · exact ⟨hneeded, .inl hkept⟩
          · obtain rfl := hok.1 rfl
            exact ⟨fun _ => hfirst.ne_nil (by decide), .inr ⟨hempty, hfirst⟩⟩

/-- How a registration ends. -/
theorem register_cases (T : EntityType E) (s : Site σ E) :
    (∃ em, s.types.lookup T.typeName = some em ∧ Manager.register T s = (.ok em, s)) ∨
    s.types.lookup T.typeName = none ∧
      ((∃ e, (Manager.register T s).1 = .error e ∧ RegisterFailed s (Manager.register T s).2) ∨
        ∃ em, (Manager.register T s).1 = .ok em ∧ RegisterDone T em s (Manager.register T s).2) := by
  unfold Manager.register
  rw [get_bind_apply]
  cases hlookup : s.types.lookup T.typeName with
  | some em => exact .inl ⟨em, rfl, rfl⟩
  | none =>
    refine .inr ⟨rfl, ?_⟩
    dsimp only
    rw [get_bind_apply]
    cases hchecked : T.entityMeta with
    | error e => exact .inl ⟨_, rfl, rfl, rfl, rfl, .inl rfl⟩
    | ok checked =>
      rw [lift_bind_of_ok rfl]
      have hcases := registerStatements_cases T hchecked (rfl : s.config.resolve checked = _)
      rcases hrun : Op.registerStatements (s.config.resolve checked) s with ⟨e | _, t⟩
      · rw [hrun] at hcases
        rw [bind_of_error hrun]
        rcases hcases with ⟨-, -, hfailed⟩ | ⟨h, -⟩
        · exact .inl ⟨e, rfl, hfailed⟩
        · cases h
      · rw [hrun] at hcases
        rw [bind_of_ok hrun, bind_of_ok (modify_apply _ _)]
        rcases hcases with ⟨e, he, -⟩ | ⟨-, hdone⟩
        · cases he
        · have hsame := (sameEntities_registerStatements (s.config.resolve checked) s).types
          rw [hrun] at hsame
          refine .inr ⟨_, rfl, ?_⟩
          rw [← hsame] at hdone
          exact hdone

/-! ### Reachable states -/

/-- What is kept of a class serves a registered type of that class name, and of the statements of
the shared counter table the first few are there, at least one if such a type needs them. -/
structure Site.Complete (s : Site σ E) : Prop where
  entity {className : String} {statements : EntityStatements} :
    (className, statements) ∈ s.registry.entities →
      ∃ name em, (name, em) ∈ s.types ∧ em.className = className ∧ statements.Serves em ∧
        (em.sharesCounters = true → s.registry.sharedCounters ≠ [])
  shared : ∃ count ≤ Template.sharedActions.length, s.registry.SharesFirst count

namespace Site.Complete

variable {s t : Site σ E}

section

omit [Session σ]

theorem of_sameStatements (h : SameStatements s t) (hs : s.Complete) : t.Complete where
  entity hmem := by
    rw [h.entities] at hmem
    rw [h.types, h.sharedCounters]
    exact hs.entity hmem
  shared := by
    unfold Registry.SharesFirst
    rw [h.sharedCounters]
    exact hs.shared

/-- Statements of classes stay as they are when some are added to the shared counter table. -/
theorem entity_mono (hs : s.Complete) (htypes : ∀ x ∈ s.types, x ∈ t.types)
    (hshared : s.registry.sharedCounters ≠ [] → t.registry.sharedCounters ≠ [])
    {className : String} {statements : EntityStatements}
    (hmem : (className, statements) ∈ s.registry.entities) :
    ∃ name em, (name, em) ∈ t.types ∧ em.className = className ∧ statements.Serves em ∧
      (em.sharesCounters = true → t.registry.sharedCounters ≠ []) := by
  obtain ⟨name, em, hin, hclass, hserves, hneeded⟩ := hs.entity hmem
  exact ⟨name, em, htypes _ hin, hclass, hserves, fun h => hshared (hneeded h)⟩

theorem of_registerFailed (hs : s.Complete) (h : RegisterFailed s t) : t.Complete where
  entity hmem := by
    rw [h.entities] at hmem
    refine hs.entity_mono (by simp [h.types]) (fun hne => ?_) hmem
    rcases h.shared with hkept | ⟨hempty, -⟩
    · rwa [hkept]
    · exact absurd hempty hne
  shared := by
    rcases h.shared with hkept | ⟨-, count, hcount, hfirst⟩
    · unfold Registry.SharesFirst
      rw [hkept]
      exact hs.shared
    · exact ⟨count, Nat.le_of_lt hcount, hfirst⟩

theorem of_registerDone {T : EntityType E} {em : EntityMeta} (hs : s.Complete)
    (h : RegisterDone T em s t) : t.Complete where
  entity {className statements} hmem := by
    have htypes : ∀ x ∈ s.types, x ∈ t.types := by
      rw [h.types]
      exact fun x hx => List.mem_cons_of_mem _ hx
    rcases h.entities with ⟨-, hentities, hkept⟩ | ⟨-, added, hserves, hentities, hneeded, hshared⟩
    · rw [hentities] at hmem
      exact hs.entity_mono htypes (fun hne => by rwa [hkept]) hmem
    · rw [hentities] at hmem
      rcases List.mem_cons.1 hmem with heq | hmem
      · obtain ⟨rfl, rfl⟩ := Prod.mk.inj heq
        refine ⟨T.typeName, em, ?_, rfl, hserves, hneeded⟩
        rw [h.types]
        exact List.mem_cons_self
      · refine hs.entity_mono htypes (fun hne => ?_) hmem
        rcases hshared with hkept | ⟨hempty, -⟩
        · rwa [hkept]
        · exact absurd hempty hne
  shared := by
    unfold Registry.SharesFirst
    rcases h.entities with ⟨-, -, hkept⟩ | ⟨-, -, -, -, -, hkept | ⟨-, hall⟩⟩
    · rw [hkept]
      exact hs.shared
    · rw [hkept]
      exact hs.shared
    · exact ⟨_, Nat.le_refl _, hall⟩

end

theorem register (hs : s.Complete) (T : EntityType E) : (Manager.register T s).2.Complete := by
  rcases register_cases T s with ⟨em, -, hrun⟩ | ⟨-, ⟨e, -, hfailed⟩ | ⟨em, -, hdone⟩⟩
  · rw [hrun]
    exact hs
  · exact hs.of_registerFailed hfailed
  · exact hs.of_registerDone hdone

end Site.Complete

/-- A move that registers no type leaves the statements as they are. -/
theorem Move.sameStatements_or_register {b c : Batching σ E} (h : Move b c) :
    SameStatements b.site c.site ∨ ∃ T : EntityType E, T.Built ∧
      c = { b with site := (Manager.register T b.site).2 } :=
  h.keeps_or_register frames_sameStatements fun _ _ _ => ⟨rfl, rfl, rfl, rfl⟩

/-- In every reachable state what is kept of a class serves it. -/
theorem Reachable.isComplete {b : Batching σ E} (h : Reachable b) : b.site.Complete := by
  refine h.of_moves (P := fun b => b.site.Complete) (fun session config => ?_) fun b c _ hmove hb => ?_
  · exact ⟨nofun, 0, Nat.zero_le _, rfl⟩
  · rcases hmove.sameStatements_or_register with hsame | ⟨T, -, rfl⟩
    · exact hb.of_sameStatements hsame
    · exact hb.register T

/-- What is registered stays registered, and the statements of the shared counter table stay as they
are once there is one. -/
structure Grown (s t : Site σ E) : Prop where
  lookup {name : String} {em : EntityMeta} :
    s.types.lookup name = some em → t.types.lookup name = some em
  types : ∀ x ∈ s.types, x ∈ t.types
  shared : s.registry.sharedCounters ≠ [] → t.registry.sharedCounters = s.registry.sharedCounters

namespace Grown

variable {s t u : Site σ E}

section

omit [Session σ]

theorem refl (s : Site σ E) : Grown s s := ⟨id, fun _ => id, fun _ => rfl⟩

theorem trans (hst : Grown s t) (htu : Grown t u) : Grown s u where
  lookup h := htu.lookup (hst.lookup h)
  types x hx := htu.types x (hst.types x hx)
  shared hne := by
    have hkept := hst.shared hne
    rw [htu.shared (by rwa [hkept]), hkept]

theorem of_sameStatements (h : SameStatements s t) : Grown s t where
  lookup hlookup := by rwa [h.types]
  types x hx := by rwa [h.types]
  shared _ := h.sharedCounters

end

theorem register (T : EntityType E) (s : Site σ E) : Grown s (Manager.register T s).2 := by
  rcases register_cases T s with ⟨em, -, hrun⟩ | ⟨hnone, ⟨e, -, hfailed⟩ | ⟨em, -, hdone⟩⟩
  · rw [hrun]
    exact refl s
  · refine ⟨fun h => by rwa [hfailed.types], by simp [hfailed.types], fun hne => ?_⟩
    exact hfailed.shared.resolve_right fun h => hne h.1
  · refine ⟨fun {name em'} hlookup => ?_, fun x hx => ?_, fun hne => ?_⟩
    · rw [hdone.types, List.lookup_cons]
      have hother : (name == T.typeName) = false := by
        rw [beq_eq_false_iff_ne]
        rintro rfl
        rw [hnone] at hlookup
        cases hlookup
      rw [hother]
      exact hlookup
    · rw [hdone.types]
      exact List.mem_cons_of_mem _ hx
    · rcases hdone.entities with ⟨-, -, hkept⟩ | ⟨-, -, -, -, -, hkept | ⟨hempty, -⟩⟩
      · exact hkept
      · exact hkept
      · exact absurd hempty hne

end Grown

theorem Later.grown {b c : Batching σ E} (h : Later b c) : Grown b.site c.site := by
  induction h with
  | refl => exact .refl _
  | move _ hmove ih =>
    rcases hmove.sameStatements_or_register with hsame | ⟨T, -, rfl⟩
    · exact ih.trans (.of_sameStatements hsame)
    · exact ih.trans (.register T _)

/-- A registration that failed while the statements of the shared counter table were prepared left
the ones that are there in the given state. -/
structure LeftPartial (before : Batching σ E) (T : EntityType E) (b : Batching σ E) : Prop where
  reachable : Reachable before
  empty : before.site.registry.sharedCounters = []
  failed : (Manager.register T before.site).1.isOk = false
  left : (Manager.register T before.site).2.registry.sharedCounters =
    b.site.registry.sharedCounters
  later : Later { before with site := (Manager.register T before.site).2 } b

/-- Some but not all statements of the shared counter table are there only after a registration that
failed among them. -/
theorem Reachable.of_partial {b : Batching σ E} (h : Reachable b) :
    b.site.registry.sharedCounters = [] ∨ b.site.registry.SharesAll ∨
      ∃ before T, LeftPartial before T b := by
  refine h.of_moves (P := fun b => b.site.registry.sharedCounters = [] ∨
    b.site.registry.SharesAll ∨ ∃ before T, LeftPartial before T b)
    (fun _ _ => .inl rfl) fun b c hb hmove ih => ?_
  -- As long as the statements stay what they were, so does the reason.
  have kept (hkept : c.site.registry.sharedCounters = b.site.registry.sharedCounters) :
      c.site.registry.sharedCounters = [] ∨ c.site.registry.SharesAll ∨
        ∃ before T, LeftPartial before T c := by
    unfold Registry.SharesAll Registry.SharesFirst
    rw [hkept]
    refine ih.imp_right (.imp_right ?_)
    rintro ⟨before, T, hleft⟩
    exact ⟨before, T, hleft.reachable, hleft.empty, hleft.failed, hleft.left.trans hkept.symm,
      hleft.later.move hmove⟩
  rcases hmove.sameStatements_or_register with hsame | ⟨T, hT, rfl⟩
  · exact kept hsame.sharedCounters
  · rcases register_cases T b.site with ⟨em, -, hrun⟩ | ⟨-, ⟨e, herror, hfailed⟩ | ⟨em, -, hdone⟩⟩
    · exact kept (by rw [hrun])
    · rcases hfailed.shared with hkept | ⟨hempty, -⟩
      · exact kept hkept
      · exact .inr (.inr ⟨b, T, hb, hempty, by rw [herror]; rfl, rfl, .refl⟩)
    · rcases hdone.entities with ⟨-, -, hkept⟩ | ⟨-, -, -, -, -, hkept | ⟨-, hall⟩⟩
      · exact kept hkept
      · exact kept hkept
      · exact .inr (.inl hall)

end WideColumn
