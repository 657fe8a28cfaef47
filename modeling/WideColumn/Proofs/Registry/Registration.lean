import WideColumn.Proofs.Page
import WideColumn.Proofs.Registry.Complete
import WideColumn.Proofs.Rejection.Binding

/-!
# What a registered class can bind

Once a registration succeeded, every binder of the class finds its statement and can fail for its
values only. The shared counter table is the exception: its statements are prepared one by one and
never completed, so a binder finds its statement there if and only if none or this one was there
before the registration. Main statement: `registration_contract`.
-/

namespace WideColumn

open Op

/-! ### Values -/

theorem PropertyMeta.isRejection_of_encodeComponents {pm : PropertyMeta} {key : List Value}
    {e : Error} (h : pm.encodeComponents key = .error e) : e.isRejection = true := by
  have heach (columns : List (String × CqlType)) (key : List Value)
      (h : pm.encodeEach columns key = .error e) : e.isRejection = true := by
    induction columns generalizing key with
    | nil => cases h
    | cons column columns ih =>
      cases key with
      | nil => cases h
      | cons v rest =>
        unfold encodeEach at h
        split at h
        · rw [← Except.error.inj h]
          rfl
        · rcases except_bind_eq_error h with h | ⟨_, -, h⟩
          · exact ih rest h
          · cases h
  unfold encodeComponents at h
  dsimp only at h
  split at h
  · rw [← Except.error.inj h]
    rfl
  · exact heach _ _ h

theorem PropertyMeta.isRejection_of_encode {pm : PropertyMeta} {v : Value} {e : Error}
    (h : pm.encode v = .error e) : e.isRejection = true := by
  unfold encode at h
  split at h
  case h_7 components _ =>
    cases hkey : pm.encodeComponents components with
    | ok encoded =>
      rw [hkey] at h
      cases h
    | error e' =>
      rw [hkey] at h
      rw [← Except.error.inj h]
      exact isRejection_of_encodeComponents hkey
  case h_8 =>
    rw [← Except.error.inj h]
    rfl
  all_goals cases h

theorem isRejection_of_counterDelta {em : EntityMeta} {pm : PropertyMeta} {delta : Int}
    {e : Error} (h : counterDelta em pm delta = .error e) : e.isRejection = true := by
  unfold counterDelta at h
  split at h
  · cases h
  · rw [← Except.error.inj h]
    rfl

namespace Registry

variable {E : Type}

/-- The values of an insert: the key, the plain attributes and the time to live. -/
def insertValues (T : EntityType E) (em : EntityMeta) (entity : E) (options : Options) :
    Except Error (List Value) := do
  let key ← encodedKey em (T.key entity)
  let attributes ← em.plain.mapM fun pm => pm.encode (insertValue T entity pm.name)
  return key ++ attributes ++ [ttlValue options]

/-- The action of a delta. -/
def deltaAction (delta : Int) : CounterAction := if 0 ≤ delta then .incr else .decr

/-- The values of a delta: its magnitude, and what says which counter is meant. -/
def deltaValues (em : EntityMeta) (pm : PropertyMeta) (delta : Int)
    (target : Except Error (List Value)) : Except Error (List Value) := do
  let (_, magnitude) ← counterDelta em pm delta
  return magnitude :: (← target)

/-! ### Binders that find their statement -/

/-- Every binder of a class with rows of its own finds the statement of its template; only values
without encoding make it fail. -/
structure ServesRows (r : Registry) (em : EntityMeta) : Prop where
  insert : ∃ p : Prepared, p.query = Template.insert em ∧
    ∀ {E : Type} (T : EntityType E) (entity : E) (options : Options) (level : Level),
      r.bindInsert T em entity options level = (insertValues T em entity options).map fun values =>
        (Request.bound p values level).withTimestamp options.timestamp
  selectEntity : ∃ p : Prepared, p.query = Template.selectEntity em ∧
    ∀ (key : List Value) (level : Level),
      r.bindSelect em key level =
        (encodedKey em key).map fun values => Request.bound p values level
  selectField : ∀ pm ∈ em.plain, ∃ p : Prepared, Template.selectField em pm = .ok p.query ∧
    ∀ (key : List Value) (level : Level),
      r.bindSelectField em pm key level =
        (encodedKey em key).map fun values => Request.bound p values level
  removal : ∃ p : Prepared, (em.tableName, p.query) ∈ Template.deletes em ∧
    ∀ (key : List Value) (options : Options) (level : Level),
      r.bindRemoval em key options level = (encodedKey em key).map fun values =>
        [(Request.bound p values level).withTimestamp options.timestamp]

/-- Every binder of a counter table finds a statement of the table for its action and name. -/
structure ServesCounterTable (r : Registry) (em : EntityMeta) : Prop where
  bind : ∀ entry ∈ Template.clusteredCounters em, ∃ p : Prepared,
    (entry.1, p.query) ∈ Template.clusteredCounters em ∧
      ∀ (key : List Value) (level : Level),
        r.bindClustered entry.1.1 entry.1.2 em key level =
          (encodedKey em key).map fun values => Request.bound p values level
  delta : ∀ pm ∈ em.counters, ∀ delta : Int, ∃ p : Prepared,
    p.query = Template.deltaText em pm.name delta ∧
      ∀ (key : List Value) (level : Level),
        r.bindClusteredDelta em pm key delta level =
          (deltaValues em pm delta (encodedKey em key)).map fun values =>
            Request.bound p values level

/-- The binders of an action on shared counters find its statement. -/
def ServesShared (r : Registry) (em : EntityMeta) (action : CounterAction) : Prop :=
  ∃ p : Prepared, (action, p.query) ∈ Template.sharedCounters ∧
    (∀ (pm : PropertyMeta) (key : List Value) (level : Level),
      r.bindShared action em pm key level =
        (sharedCounterKey em pm key).map fun values => Request.bound p values level) ∧
    ∀ (pm : PropertyMeta) (key : List Value) (delta : Int) (level : Level),
      deltaAction delta = action → r.bindSharedDelta em pm key delta level =
        (deltaValues em pm delta (sharedCounterKey em pm key)).map fun values =>
          Request.bound p values level

/-- The binders of an action on shared counters fail, because its statement is missing. -/
structure LacksShared (r : Registry) (em : EntityMeta) (action : CounterAction) : Prop where
  bind (pm : PropertyMeta) (key : List Value) (level : Level) :
    r.bindShared action em pm key level = .error (missing em "counter")
  delta (pm : PropertyMeta) (key : List Value) {delta : Int} (level : Level) :
    deltaAction delta = action → MagnitudeFits delta →
      r.bindSharedDelta em pm key delta level = .error (missing em "counter")

variable {r : Registry} {em : EntityMeta} {statements : EntityStatements} {p : Prepared}

section

variable (hstatements : r.statements em = .ok statements)
include hstatements

theorem bindInsert_eq (hp : statements.insert = some p) (T : EntityType E) (entity : E)
    (options : Options) (level : Level) :
    r.bindInsert T em entity options level = (insertValues T em entity options).map fun values =>
      (Request.bound p values level).withTimestamp options.timestamp := by
  unfold bindInsert insertValues
  rw [hstatements]
  simp only [bind, Except.bind, hp, orMissing]
  cases encodedKey em (T.key entity) with
  | error e => rfl
  | ok key =>
    dsimp only
    cases em.plain.mapM fun pm => pm.encode (insertValue T entity pm.name) <;> rfl

theorem bindSelect_eq (hp : statements.selectEntity = some p) (key : List Value)
    (level : Level) : r.bindSelect em key level =
      (encodedKey em key).map fun values => Request.bound p values level := by
  unfold bindSelect bindKey
  rw [hstatements]
  simp only [bind, Except.bind, hp, orMissing]
  cases encodedKey em key <;> rfl

theorem bindSelectField_eq {pm : PropertyMeta}
    (hp : statements.selectFields.lookup pm.name = some p) (key : List Value) (level : Level) :
    r.bindSelectField em pm key level =
      (encodedKey em key).map fun values => Request.bound p values level := by
  unfold bindSelectField bindKey
  rw [hstatements]
  simp only [bind, Except.bind, hp]
  cases encodedKey em key <;> rfl

theorem bindRemoval_eq {table : String} (hp : statements.deletes = [(table, p)])
    (key : List Value) (options : Options) (level : Level) :
    r.bindRemoval em key options level = (encodedKey em key).map fun values =>
      [(Request.bound p values level).withTimestamp options.timestamp] := by
  unfold bindRemoval
  rw [hstatements]
  simp only [bind, Except.bind, hp]
  cases encodedKey em key <;> rfl

theorem clusteredCounter_eq {action : CounterAction} {name : String}
    (hp : statements.clusteredCounters.lookup (action, name) = some p) :
    r.clusteredCounter em action name = .ok p := by
  unfold clusteredCounter
  rw [hstatements]
  simp only [bind, Except.bind, hp, orMissing]

theorem sharedCounter_eq (action : CounterAction) :
    r.sharedCounter em action = orMissing em "counter" (r.sharedCounters.lookup action) := by
  unfold sharedCounter
  rw [hstatements]
  rfl

end

theorem bindClustered_eq {action : CounterAction} {name : String}
    (hp : r.clusteredCounter em action name = .ok p) (key : List Value) (level : Level) :
    r.bindClustered action name em key level =
      (encodedKey em key).map fun values => Request.bound p values level := by
  unfold bindClustered bindKey
  rw [hp]
  simp only [bind, Except.bind]
  cases encodedKey em key <;> rfl

theorem bindClusteredDelta_eq {pm : PropertyMeta} {delta : Int}
    (hp : r.clusteredCounter em (deltaAction delta) pm.name = .ok p) (key : List Value)
    (level : Level) : r.bindClusteredDelta em pm key delta level =
      (deltaValues em pm delta (encodedKey em key)).map fun values =>
        Request.bound p values level := by
  unfold bindClusteredDelta deltaValues
  cases hdelta : counterDelta em pm delta with
  | error e => rfl
  | ok signed =>
    obtain ⟨action, magnitude⟩ := signed
    obtain ⟨-, rfl, -⟩ := counterDelta_eq_ok hdelta
    unfold deltaAction at hp
    simp only [bind, Except.bind, hp]
    cases encodedKey em key <;> rfl

theorem bindShared_eq {action : CounterAction} (hp : r.sharedCounter em action = .ok p)
    (pm : PropertyMeta) (key : List Value) (level : Level) :
    r.bindShared action em pm key level =
      (sharedCounterKey em pm key).map fun values => Request.bound p values level := by
  unfold bindShared
  rw [hp]
  simp only [bind, Except.bind]
  cases sharedCounterKey em pm key <;> rfl

theorem bindSharedDelta_eq {pm : PropertyMeta} {delta : Int}
    (hp : r.sharedCounter em (deltaAction delta) = .ok p) (key : List Value) (level : Level) :
    r.bindSharedDelta em pm key delta level =
      (deltaValues em pm delta (sharedCounterKey em pm key)).map fun values =>
        Request.bound p values level := by
  unfold bindSharedDelta deltaValues
  cases hdelta : counterDelta em pm delta with
  | error e => rfl
  | ok signed =>
    obtain ⟨action, magnitude⟩ := signed
    obtain ⟨-, rfl, -⟩ := counterDelta_eq_ok hdelta
    unfold deltaAction at hp
    simp only [bind, Except.bind, hp]
    cases sharedCounterKey em pm key <;> rfl

theorem lacksShared_of_missing {action : CounterAction}
    (h : r.sharedCounter em action = .error (missing em "counter")) : r.LacksShared em action where
  bind pm key level := by
    unfold bindShared
    rw [h]
    rfl
  delta pm key delta level haction hrange := by
    unfold bindSharedDelta
    have hdelta : counterDelta em pm delta =
        .ok (deltaAction delta, .bigint (Int64.ofNat delta.natAbs)) := if_pos hrange
    rw [hdelta, haction]
    simp only [bind, Except.bind, h]

end Registry

/-! ### Registered classes -/

variable {σ E : Type} [Session σ]

/-- A registered class that shares its name with no other, on a site as reachable states have. -/
structure SoleEntry (s : Site σ E) (em : EntityMeta) : Prop where
  sound : s.Sound
  complete : s.Complete
  registered : ∃ name, (name, em) ∈ s.types
  sole : SoleClass s.types em

namespace SoleEntry

variable {s : Site σ E} {em : EntityMeta} (h : SoleEntry s em)
include h

omit [Session σ] in
/-- The statements of the class are its own, and they serve it. -/
theorem exists_statements : ∃ statements, s.registry.statements em = .ok statements ∧
    statements.Carry em ∧ statements.Serves em ∧
      (em.sharesCounters = true → s.registry.sharedCounters ≠ []) := by
  obtain ⟨name, hmem⟩ := h.registered
  obtain ⟨statements, hstatements⟩ := Registry.statements_of_isRegistered (h.sound.known hmem)
  have hin := Registry.mem_entities_of_statements hstatements
  obtain ⟨_, em₁, hmem₁, hclass₁, hcarry⟩ := h.sound.registry.entity hin
  obtain ⟨_, em₂, hmem₂, hclass₂, hserves, hneeded⟩ := h.complete.entity hin
  obtain rfl := h.sole _ hmem₁ hclass₁
  obtain rfl := h.sole _ hmem₂ hclass₂
  exact ⟨statements, hstatements, hcarry, hserves, hneeded⟩

omit [Session σ] in
theorem servesRows (hem : em.isClusteredCounter = false) : s.registry.ServesRows em := by
  obtain ⟨statements, hstatements, hcarry, hserves, -⟩ := h.exists_statements
  constructor
  case insert =>
    obtain ⟨p, hp⟩ := Option.isSome_iff_exists.1 (hserves.insert hem)
    exact ⟨p, hcarry.insert hp, Registry.bindInsert_eq hstatements hp⟩
  case selectEntity =>
    obtain ⟨p, hp⟩ := Option.isSome_iff_exists.1 (hserves.selectEntity hem)
    exact ⟨p, hcarry.selectEntity hp, Registry.bindSelect_eq hstatements hp⟩
  case selectField =>
    intro pm hpm
    obtain ⟨p, hp⟩ := Option.isSome_iff_exists.1 (hserves.selectField hem pm hpm)
    obtain ⟨own, hown, hname, htext⟩ := hcarry.selectField (mem_of_lookup hp)
    obtain ⟨_, hmem⟩ := h.registered
    obtain rfl := (h.sound.built hmem).eq_of_name hown hpm hname
    exact ⟨p, htext, Registry.bindSelectField_eq hstatements hp⟩
  case removal =>
    obtain ⟨⟨table, p⟩, hdeletes⟩ : ∃ entry, statements.deletes = [entry] := by
      have hlength := congrArg List.length (hserves.deletes hem)
      rw [List.length_map, List.length_map] at hlength
      exact List.length_eq_one_iff.1 hlength
    have htext : (table, p.query) ∈ Template.deletes em := by
      apply hcarry.delete
      rw [hdeletes]
      exact List.mem_singleton_self _
    have htable : table = em.tableName := (Prod.mk.inj (List.mem_singleton.1 htext)).1
    rw [htable] at htext hdeletes
    exact ⟨p, htext, Registry.bindRemoval_eq hstatements hdeletes⟩

omit [Session σ] in
theorem servesCounterTable (hem : em.isClusteredCounter = true) :
    s.registry.ServesCounterTable em := by
  obtain ⟨statements, hstatements, hcarry, hserves, -⟩ := h.exists_statements
  have found (entry) (hentry : entry ∈ Template.clusteredCounters em) : ∃ p : Prepared,
      (entry.1, p.query) ∈ Template.clusteredCounters em ∧
        s.registry.clusteredCounter em entry.1.1 entry.1.2 = .ok p := by
    obtain ⟨p, hp⟩ := Option.isSome_iff_exists.1 (hserves.clusteredCounter hem entry hentry)
    exact ⟨p, hcarry.clusteredCounter (mem_of_lookup hp),
      Registry.clusteredCounter_eq hstatements hp⟩
  constructor
  case bind =>
    intro entry hentry
    obtain ⟨p, htext, hp⟩ := found entry hentry
    exact ⟨p, htext, Registry.bindClustered_eq hp⟩
  case delta =>
    intro pm hpm delta
    have hentry : ∃ text, ((Registry.deltaAction delta, pm.name), text) ∈
        Template.clusteredCounters em := by
      unfold Template.clusteredCounters Template.clusteredCounter Registry.deltaAction
      simp only [List.mem_append, List.mem_flatMap]
      by_cases hdelta : 0 ≤ delta
      · exact ⟨_, .inl ⟨pm, hpm, by rw [if_pos hdelta]; exact List.mem_cons_self⟩⟩
      · exact ⟨_, .inl ⟨pm, hpm, by
          rw [if_neg hdelta]
          exact List.mem_cons_of_mem _ List.mem_cons_self⟩⟩
    obtain ⟨text, hentry⟩ := hentry
    obtain ⟨p, htext, hp⟩ := found _ hentry
    exact ⟨p, Template.mem_clusteredCounters_delta hem htext, Registry.bindClusteredDelta_eq hp⟩

omit [Session σ] in
/-- A statement of the shared counter table that is there is found. -/
theorem servesShared {action : CounterAction}
    (hfound : (s.registry.sharedCounters.lookup action).isSome = true) :
    s.registry.ServesShared em action := by
  obtain ⟨statements, hstatements, -⟩ := h.exists_statements
  obtain ⟨p, hp⟩ := Option.isSome_iff_exists.1 hfound
  have hshared : s.registry.sharedCounter em action = .ok p := by
    rw [Registry.sharedCounter_eq hstatements, hp]
    rfl
  refine ⟨p, h.sound.registry.sharedCounter (mem_of_lookup hp), Registry.bindShared_eq hshared,
    fun pm key delta level haction => ?_⟩
  subst haction
  exact Registry.bindSharedDelta_eq hshared key level

omit [Session σ] in
/-- One that is not there is missing. -/
theorem lacksShared {action : CounterAction}
    (hnone : s.registry.sharedCounters.lookup action = none) :
    s.registry.LacksShared em action := by
  obtain ⟨statements, hstatements, -⟩ := h.exists_statements
  apply Registry.lacksShared_of_missing
  rw [Registry.sharedCounter_eq hstatements, hnone]
  rfl

end SoleEntry

theorem Registry.SharesAll.isSome_lookup {r : Registry} (h : r.SharesAll)
    (action : CounterAction) : (r.sharedCounters.lookup action).isSome = true := by
  rw [isSome_lookup_iff, h, List.mem_reverse]
  cases action <;> decide

/-! ### The contract of a registration -/

/-- Whether the statement of an action on shared counters will be there after a registration that
needs it: none was there before, or this one was. -/
def SharedReady (b : Batching σ E) (action : CounterAction) : Prop :=
  b.site.registry.sharedCounters = [] ∨
    (b.site.registry.sharedCounters.lookup action).isSome = true

/-- What can be bound in a state after a registration that succeeded. -/
structure RegistrationContract (before after : Batching σ E) (T : EntityType E)
    (em : EntityMeta) : Prop where
  registered : after.site.types.lookup T.typeName = some em
  /-- Only values without encoding are refused where a statement is found. -/
  values {e : Error} : ((∃ key, Registry.encodedKey em key = .error e) ∨
    (∃ pm ∈ em.plain, ∃ v, pm.encode v = .error e) ∨
    ∃ pm ∈ em.counters, ∃ delta, counterDelta em pm delta = .error e) → e.isRejection = true
  rows : em.isClusteredCounter = false → after.site.registry.ServesRows em
  counterTable : em.isClusteredCounter = true → after.site.registry.ServesCounterTable em
  shared {action : CounterAction} : em.sharesCounters = true → SharedReady before action →
    after.site.registry.ServesShared em action
  /-- Otherwise the statement is missing for good, since a registration failed among the statements
  of the shared counter table. -/
  lacking {action : CounterAction} : em.sharesCounters = true → ¬ SharedReady before action →
    after.site.registry.LacksShared em action ∧
      ∃ earlier other, LeftPartial earlier other before

/-- A registration that succeeded knows its type. It left the statements of the shared counter table
alone, unless there were none, in which case it may have prepared them all. -/
theorem Manager.register_spec {T : EntityType E} {em : EntityMeta} {s : Site σ E}
    (hok : (Manager.register T s).1 = .ok em) :
    (Manager.register T s).2.types.lookup T.typeName = some em ∧
      ((Manager.register T s).2.registry.sharedCounters = s.registry.sharedCounters ∨
        s.registry.sharedCounters = [] ∧ (Manager.register T s).2.registry.SharesAll) := by
  rcases register_cases T s with ⟨em', hknown, hrun⟩ | ⟨-, ⟨e, herror, -⟩ | ⟨em', hem', hdone⟩⟩
  · rw [hrun] at hok ⊢
    exact ⟨by rw [hknown, Except.ok.inj hok], .inl rfl⟩
  · rw [hok] at herror
    cases herror
  · rw [hok] at hem'
    refine ⟨by rw [hdone.types, Except.ok.inj hem', List.lookup_cons_self], ?_⟩
    rcases hdone.entities with ⟨-, -, hsame⟩ | ⟨-, -, -, -, -, hshared⟩
    · exact .inl hsame
    · exact hshared

/-- Once a registration succeeded, whatever is done afterwards: the binders of the class find their
statements, but for the ones of the shared counter table that an earlier registration left out. -/
theorem registration_contract [LawfulSession σ] {before after : Batching σ E} {T : EntityType E}
    {em : EntityMeta} (hbefore : Reachable before) (hT : T.Built)
    (hok : (Manager.register T before.site).1 = .ok em)
    (hafter : Later { before with site := (Manager.register T before.site).2 } after)
    (hsole : SoleClass after.site.types em) : RegistrationContract before after T em := by
  have hregistered : Move before { before with site := (Manager.register T before.site).2 } := by
    have hmove := Move.manager before (.register T) hT
    have hrun : ((ManagerCall.register T).run before.site).2 =
      (Manager.register T before.site).2 := discard_apply _ _
    rwa [hrun] at hmove
  have hreachable := hbefore.move hregistered
  have hgrown := hafter.grown
  obtain ⟨hlookup, hregister⟩ := Manager.register_spec hok
  have hentry : SoleEntry after.site em := {
    sound := (hreachable.later hafter).sound
    complete := (hreachable.later hafter).isComplete
    registered := ⟨_, mem_of_lookup (hgrown.lookup hlookup)⟩
    sole := hsole }
  -- The same holds right after the registration, when fewer types are there.
  have hentry' : SoleEntry (Manager.register T before.site).2 em := {
    sound := hreachable.sound
    complete := hreachable.isComplete
    registered := ⟨_, mem_of_lookup hlookup⟩
    sole := fun x hx => hsole x (hgrown.types x hx) }
  obtain ⟨-, -, -, -, hneeded⟩ := hentry'.exists_statements
  -- The statements of the shared counter table are there for good once there is one.
  have hkept (hshares : em.sharesCounters = true) : after.site.registry.sharedCounters =
      (Manager.register T before.site).2.registry.sharedCounters := hgrown.shared (hneeded hshares)
  constructor
  case registered => exact hgrown.lookup hlookup
  case values =>
    rintro e (⟨key, he⟩ | ⟨pm, -, v, he⟩ | ⟨pm, -, delta, he⟩)
    · exact PropertyMeta.isRejection_of_encodeComponents he
    · exact PropertyMeta.isRejection_of_encode he
    · exact isRejection_of_counterDelta he
  case rows => exact hentry.servesRows
  case counterTable => exact hentry.servesCounterTable
  case shared =>
    intro action hshares hready
    apply hentry.servesShared
    rw [hkept hshares]
    rcases hregister with hsame | ⟨-, hall⟩
    · rw [hsame]
      exact hready.resolve_left fun hnil => hneeded hshares (hsame.trans hnil)
    · exact hall.isSome_lookup action
  case lacking =>
    intro action hshares hready
    obtain ⟨hnil, hnone⟩ := not_or.1 hready
    have hsame := hregister.resolve_right fun hempty => hnil hempty.1
    refine ⟨hentry.lacksShared ?_, ?_⟩
    · rw [hkept hshares, hsame]
      exact Option.not_isSome_iff_eq_none.1 hnone
    · rcases hbefore.of_partial with hempty | hall | hleft
      · exact absurd hempty hnil
      · exact absurd (hall.isSome_lookup action) hnone
      · exact hleft

/-! ### Pages -/

namespace Page

/-- A manager whose session refused the statement that decrements, so that the registration of pages
failed. -/
def refused : Batching Script Page :=
  manager (Script.empty.addFailure ⟨.prepare, "counter_value - ?", .failed .timeout⟩) [plain]

/-- Register a type. -/
def registered (b : Batching Script Page) (T : EntityType Page) : Batching Script Page :=
  { b with site := (Manager.register T b.site).2 }

theorem register_refused :
    (Manager.register plain refused.site).1 = .ok (entityMeta "pages") := by
  decide +kernel

theorem soleClass_registered_refused :
    SoleClass (registered refused plain).site.types (entityMeta "pages") := by
  unfold SoleClass
  decide +kernel

/-- The second registration succeeds; increments are found, decrements are not. -/
theorem registration_contract_retried :
    RegistrationContract refused (registered refused plain) plain (entityMeta "pages") ∧
      SharedReady refused .incr ∧ ¬ SharedReady refused .decr := by
  refine ⟨registration_contract (reachable_manager_type _ _ _ _) (built_type _ _ _)
    register_refused .refl soleClass_registered_refused, ?_, ?_⟩
  · exact .inr (by decide +kernel)
  · unfold SharedReady
    decide +kernel

/-- A registration that succeeded does not mean that every statement is there. -/
theorem not_served_of_retried :
    ¬ ∀ (before : Batching Script Page) (T : EntityType Page) (em : EntityMeta),
      Reachable before → T.Built → (Manager.register T before.site).1 = .ok em →
      SoleClass (registered before T).site.types em → em.sharesCounters = true →
      ∀ (action : CounterAction) (pm : PropertyMeta) (key : List Value) (level : Level),
        ((registered before T).site.registry.bindShared action em pm key level).map
          (fun _ => ()) ≠ .error (Registry.missing em "counter") := by
  intro h
  have hfound := h refused plain (entityMeta "pages") (reachable_manager_type _ _ _ _)
    (built_type _ _ _) register_refused soleClass_registered_refused (by decide +kernel)
    .delete hitsMeta [.bigint 1] .one
  revert hfound
  decide +kernel

end Page

end WideColumn
