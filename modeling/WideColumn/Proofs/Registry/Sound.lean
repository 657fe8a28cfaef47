import WideColumn.Proofs.Operation.Calls
import WideColumn.Proofs.Reachable

/-!
# What prepared statements say

Every statement of the registry carries the text that the templates give for the metadata of a
registered type: the statements of a class for a type of that class name, the cached updates for a
type of the class name they are kept under, the statements of the shared counter table for no type
in particular. Preparing and binding keep it that way.
-/

namespace WideColumn

open Op

/-- What is found in an association list is in it. -/
theorem mem_of_lookup {α β : Type} [BEq α] [LawfulBEq α] {entries : List (α × β)} {key : α}
    {value : β} (h : entries.lookup key = some value) : (key, value) ∈ entries := by
  obtain ⟨before, after, rfl, -⟩ := List.lookup_eq_some_iff.1 h
  simp

/-- The text of the update of the named properties. -/
def Template.updateOf (em : EntityMeta) (names : List String) : String :=
  s!"UPDATE {em.tableName} USING TTL :ttl SET {assignments names} WHERE {keyCondition em};"

theorem Template.update_eq_updateOf (em : EntityMeta) (properties : List PropertyMeta) :
    Template.update em properties = Template.updateOf em (properties.map fun pm => pm.name) := rfl

/-- The statements are those of the metadata. -/
structure EntityStatements.Carry (statements : EntityStatements) (em : EntityMeta) : Prop where
  insert {p : Prepared} : statements.insert = some p → p.query = Template.insert em
  selectEntity {p : Prepared} :
    statements.selectEntity = some p → p.query = Template.selectEntity em
  selectField {name : String} {p : Prepared} : (name, p) ∈ statements.selectFields →
    ∃ pm ∈ em.plain, pm.name = name ∧ Template.selectField em pm = .ok p.query
  delete {table : String} {p : Prepared} :
    (table, p) ∈ statements.deletes → (table, p.query) ∈ Template.deletes em
  clusteredCounter {key : CounterAction × String} {p : Prepared} :
    (key, p) ∈ statements.clusteredCounters → (key, p.query) ∈ Template.clusteredCounters em

/-- The statements of a registry are those of the registered types. -/
structure Registry.Sound (r : Registry) (types : List (String × EntityMeta)) : Prop where
  entity {className : String} {statements : EntityStatements} :
    (className, statements) ∈ r.entities →
      ∃ name em, (name, em) ∈ types ∧ em.className = className ∧ statements.Carry em
  sharedCounter {action : CounterAction} {p : Prepared} :
    (action, p) ∈ r.sharedCounters → (action, p.query) ∈ Template.sharedCounters
  update {e : CacheEntry} : e ∈ r.updates.entries →
    ∃ name em, (name, em) ∈ types ∧ em.className = e.key.className ∧
      e.prepared.query = Template.updateOf em e.key.properties

namespace Registry.Sound

variable {r : Registry} {types : List (String × EntityMeta)}

/-- A registry without statements is sound. -/
theorem ofCapacity (capacity : Nat) : (Registry.ofCapacity capacity).Sound [] where
  entity h := by simp [Registry.ofCapacity] at h
  sharedCounter h := by simp [Registry.ofCapacity] at h
  update h := by simp [Registry.ofCapacity, StatementCache.ofCapacity] at h

/-- More types do no harm. -/
theorem cons (h : r.Sound types) (entry : String × EntityMeta) : r.Sound (entry :: types) where
  entity he := by
    obtain ⟨name, em, hmem, hname, hcarry⟩ := h.entity he
    exact ⟨name, em, List.mem_cons_of_mem _ hmem, hname, hcarry⟩
  sharedCounter := h.sharedCounter
  update he := by
    obtain ⟨name, em, hmem, hname, htext⟩ := h.update he
    exact ⟨name, em, List.mem_cons_of_mem _ hmem, hname, htext⟩

theorem addEntity (h : r.Sound types) {name : String} {em : EntityMeta}
    (hmem : (name, em) ∈ types) {statements : EntityStatements} (hcarry : statements.Carry em) :
    (r.addEntity em.className statements).Sound types where
  entity he := by
    rcases List.mem_cons.1 he with heq | he
    · obtain ⟨rfl, rfl⟩ := Prod.mk.inj heq
      exact ⟨name, em, hmem, rfl, hcarry⟩
    · exact h.entity he
  sharedCounter := h.sharedCounter
  update := h.update

theorem addShared (h : r.Sound types) {action : CounterAction} {p : Prepared}
    (hp : (action, p.query) ∈ Template.sharedCounters) : (r.addShared action p).Sound types where
  entity := h.entity
  sharedCounter hmem := by
    rcases List.mem_cons.1 hmem with heq | hmem
    · obtain ⟨rfl, rfl⟩ := Prod.mk.inj heq
      exact hp
    · exact h.sharedCounter hmem
  update := h.update

/-- Looking up an update keeps every statement under its key. -/
theorem get (h : r.Sound types) (key : StatementKey) :
    { r with updates := (r.updates.get key).2 }.Sound types where
  entity := h.entity
  sharedCounter := h.sharedCounter
  update {e} he := by
    simp only [StatementCache.get] at he
    split at he
    · exact h.update he
    · obtain ⟨old, hold, rfl⟩ := List.mem_map.1 he
      have := h.update hold
      split <;> exact this

theorem insert (h : r.Sound types) {name : String} {em : EntityMeta}
    (hmem : (name, em) ∈ types) {key : StatementKey} {p : Prepared}
    (hclass : em.className = key.className)
    (htext : p.query = Template.updateOf em key.properties) :
    { r with updates := r.updates.insert key p }.Sound types where
  entity := h.entity
  sharedCounter := h.sharedCounter
  update {e} he := by
    have hevict {x : CacheEntry} (hx : x ∈ r.updates.evict.entries) : x ∈ r.updates.entries := by
      simp only [StatementCache.evict] at hx
      split at hx
      · exact hx
      · exact (List.mem_filter.1 hx).1
    simp only [StatementCache.insert] at he
    split at he
    · exact h.update he
    · rcases List.mem_cons.1 he with rfl | he
      · exact ⟨name, em, hmem, hclass, htext⟩
      · have hold := (List.mem_filter.1 he).1
        split at hold
        · exact h.update (hevict hold)
        · exact h.update hold

end Registry.Sound

/-! ### Preparing -/

variable {σ E : Type} [Session σ]

section Lawful

variable [LawfulSession σ]

theorem query_of_prepare {text : String} {s t : Site σ E} {p : Prepared}
    (h : Op.prepare text s = (.ok p, t)) : p.query = text := by
  rw [prepare_apply] at h
  obtain ⟨hp, -⟩ := Prod.mk.inj h
  exact LawfulSession.query_of_prepare hp

/-- What is prepared from a list of texts carries these texts. -/
theorem mem_of_prepareAll {κ : Type} {texts : List (κ × String)} {s t : Site σ E}
    {ps : List (κ × Prepared)} (h : Op.prepareAll texts s = (.ok ps, t)) {key : κ}
    {p : Prepared} (hp : (key, p) ∈ ps) : (key, p.query) ∈ texts := by
  obtain ⟨⟨key', text⟩, hmem, u, v, hrun⟩ := mem_of_mapM_eq_ok h hp
  obtain ⟨p', w, hprepare, hrun⟩ := bind_eq_ok hrun
  obtain ⟨heq, -⟩ := Prod.mk.inj hrun
  obtain ⟨rfl, rfl⟩ := Prod.mk.inj (Except.ok.inj heq)
  rw [query_of_prepare hprepare]
  exact hmem

theorem carry_of_prepareClustered {em : EntityMeta} {s t : Site σ E}
    {statements : EntityStatements} (h : Op.prepareClustered em s = (.ok statements, t)) :
    statements.Carry em := by
  obtain ⟨clustered, u, hall, h⟩ := bind_eq_ok h
  obtain ⟨heq, -⟩ := Prod.mk.inj h
  obtain rfl := Except.ok.inj heq
  exact {
    insert := fun h => by cases h
    selectEntity := fun h => by cases h
    selectField := fun h => by cases h
    delete := fun h => by cases h
    clusteredCounter := fun h => mem_of_prepareAll hall (List.mem_reverse.1 h) }

theorem carry_of_preparePlain {em : EntityMeta} {s t : Site σ E}
    {statements : EntityStatements} (h : Op.preparePlain em s = (.ok statements, t)) :
    statements.Carry em := by
  obtain ⟨insert, u₁, hinsert, h⟩ := bind_eq_ok h
  obtain ⟨selectEntity, u₂, hselect, h⟩ := bind_eq_ok h
  obtain ⟨selectFields, u₃, hfields, h⟩ := bind_eq_ok h
  obtain ⟨deletes, u₄, hdeletes, h⟩ := bind_eq_ok h
  obtain ⟨heq, -⟩ := Prod.mk.inj h
  obtain rfl := Except.ok.inj heq
  constructor
  case insert =>
    intro p hp
    rw [← Option.some.inj hp]
    exact query_of_prepare hinsert
  case selectEntity =>
    intro p hp
    rw [← Option.some.inj hp]
    exact query_of_prepare hselect
  case selectField =>
    intro name p hp
    obtain ⟨pm, hpm, u, v, hrun⟩ := mem_of_mapM_eq_ok hfields hp
    cases htext : Template.selectField em pm with
    | error e =>
      rw [lift_bind_of_error htext] at hrun
      cases hrun
    | ok text =>
      rw [lift_bind_of_ok htext] at hrun
      obtain ⟨p', w, hprepare, hrun⟩ := bind_eq_ok hrun
      obtain ⟨heq, -⟩ := Prod.mk.inj hrun
      obtain ⟨rfl, rfl⟩ := Prod.mk.inj (Except.ok.inj heq)
      exact ⟨pm, hpm, rfl, by rw [htext, query_of_prepare hprepare]⟩
  case delete =>
    intro table p hp
    exact mem_of_prepareAll hdeletes hp
  case clusteredCounter =>
    intro key p hp
    cases hp

end Lawful

/-! ### Registering -/

theorem keeps_prepare {R : Site σ E → Site σ E → Prop}
    (hR : ∀ (s : Site σ E) text session,
      R s { s with trace := s.trace ++ [.prepared text], session }) (text : String) :
    Keeps R (Op.prepare text) := by
  intro s
  rw [prepare_apply]
  exact hR _ _ _

/-- The statements of a class, before they are kept. -/
def prepareStatements (em : EntityMeta) : Op σ E EntityStatements :=
  if em.isClusteredCounter then Op.prepareClustered em else Op.preparePlain em

/-- Preparing the statements of a class changes nothing but the session and the trace. -/
theorem keeps_prepareStatements {R : Site σ E → Site σ E → Prop} (hcomp : Composes R)
    (hR : ∀ (s : Site σ E) text session,
      R s { s with trace := s.trace ++ [.prepared text], session }) (em : EntityMeta) :
    Keeps R (prepareStatements em) := by
  have prepare := keeps_prepare hR
  have prepareAll {κ : Type} (texts : List (κ × String)) : Keeps R (Op.prepareAll texts) :=
    hcomp.mapM fun _ _ => hcomp.bind (prepare _) fun _ => hcomp.pure _
  unfold prepareStatements
  split
  · exact hcomp.bind (prepareAll _) fun _ => hcomp.pure _
  · refine hcomp.bind (prepare _) fun _ => hcomp.bind (prepare _) fun _ => ?_
    refine hcomp.bind (hcomp.mapM fun _ _ => ?_) fun _ =>
      hcomp.bind (prepareAll _) fun _ => hcomp.pure _
    exact hcomp.lift_bind fun _ _ => hcomp.bind (prepare _) fun _ => hcomp.pure _

/-- A registry that was sound for the given types still is. -/
def KeepsSound (types : List (String × EntityMeta)) (s t : Site σ E) : Prop :=
  s.registry.Sound types → t.registry.Sound types

omit [Session σ] in
theorem composes_keepsSound (types : List (String × EntityMeta)) :
    Composes (KeepsSound (σ := σ) (E := E) types) :=
  composes_of_invariant fun s : Site σ E => s.registry.Sound types

/-- What is done with the statements of a class once they are there. -/
def keepStatements (em : EntityMeta) (statements : EntityStatements) : Op σ E Unit := do
  if !em.isClusteredCounter && !em.counters.isEmpty then Op.prepareShared
  Op.modifyRegistry fun r => r.addEntity em.className statements

/-- Prepare the statements of the shared counter table for a class that needs them. -/
def maybePrepareShared (em : EntityMeta) : Op σ E Unit :=
  if !em.isClusteredCounter && !em.counters.isEmpty then Op.prepareShared else pure ()

theorem keepStatements_eq (em : EntityMeta) (statements : EntityStatements) :
    (keepStatements em statements : Op σ E Unit) =
      maybePrepareShared em >>= fun _ =>
        Op.modifyRegistry fun r => r.addEntity em.className statements := by
  unfold keepStatements maybePrepareShared
  split <;> rfl

/-- Preparing the statements of the shared counter table, if they are needed, changes nothing but
the session, the trace and these statements. -/
theorem keeps_maybePrepareShared {R : Site σ E → Site σ E → Prop} (hcomp : Composes R)
    (hprepared : ∀ (s : Site σ E) text session,
      R s { s with trace := s.trace ++ [.prepared text], session })
    (hshared : ∀ (s : Site σ E) action p,
      R s { s with registry := s.registry.addShared action p }) (em : EntityMeta) :
    Keeps R (maybePrepareShared em) := by
  unfold maybePrepareShared
  split
  · apply keeps_get_bind
    intro _
    split
    · apply hcomp.forM
      intro ⟨action, text⟩ _
      exact hcomp.bind (keeps_prepare hprepared text) fun p s => hshared s action p
    · exact hcomp.pure _
  · exact hcomp.pure _

theorem registerStatements_apply (em : EntityMeta) (s : Site σ E) :
    Op.registerStatements em s =
      if s.registry.isRegistered em.className then (.ok (), s)
      else (prepareStatements em >>= keepStatements em) s := by
  unfold Op.registerStatements
  rw [get_bind_apply]
  split
  · rfl
  · unfold prepareStatements
    dsimp only
    split <;> rfl

/-- Registering a class changes nothing but the session, the trace and the registry. -/
theorem keeps_registerStatements {R : Site σ E → Site σ E → Prop} (hcomp : Composes R)
    (hprepared : ∀ (s : Site σ E) text session,
      R s { s with trace := s.trace ++ [.prepared text], session })
    (hregistry : ∀ (s : Site σ E) registry, R s { s with registry }) (em : EntityMeta) :
    Keeps R (Op.registerStatements em) := by
  intro s
  rw [registerStatements_apply]
  split
  · exact hcomp.refl s
  · refine hcomp.bind (keeps_prepareStatements hcomp hprepared em) (fun _ => ?_) s
    rw [keepStatements_eq]
    have hshared := keeps_maybePrepareShared hcomp hprepared (fun s _ _ => hregistry s _) em
    exact hcomp.bind hshared fun _ t => hregistry t _

/-- Registering a type changes the types as well. -/
theorem Manager.keeps_register {R : Site σ E → Site σ E → Prop} (hcomp : Composes R)
    (hprepared : ∀ (s : Site σ E) text session,
      R s { s with trace := s.trace ++ [.prepared text], session })
    (hregistry : ∀ (s : Site σ E) registry, R s { s with registry })
    (htypes : ∀ (s : Site σ E) types, R s { s with types }) (T : EntityType E) :
    Keeps R (Manager.register T) := by
  apply keeps_get_bind
  intro s
  split
  · exact hcomp.pure _
  · refine keeps_get_bind fun _ => hcomp.lift_bind fun _ _ => ?_
    exact hcomp.bind (keeps_registerStatements hcomp hprepared hregistry _) fun _ =>
      hcomp.bind (fun t => htypes t _) fun _ => hcomp.pure _

/-- The types, the entities and the outbox are the same. -/
structure SameEntities (s t : Site σ E) : Prop where
  types : t.types = s.types
  workspace : t.workspace = s.workspace
  outbox : t.outbox = s.outbox

omit [Session σ] in
theorem composes_sameEntities : Composes (SameEntities (σ := σ) (E := E)) where
  refl _ := ⟨rfl, rfl, rfl⟩
  trans hst htu := ⟨htu.types.trans hst.types, htu.workspace.trans hst.workspace,
    htu.outbox.trans hst.outbox⟩

theorem sameEntities_registerStatements (em : EntityMeta) :
    Keeps (SameEntities (σ := σ) (E := E)) (Op.registerStatements em) :=
  keeps_registerStatements composes_sameEntities (fun _ _ _ => ⟨rfl, rfl, rfl⟩)
    (fun _ _ => ⟨rfl, rfl, rfl⟩) em

/-- The same statements of classes. -/
def SameClasses (s t : Site σ E) : Prop := t.registry.entities = s.registry.entities

omit [Session σ] in
theorem composes_sameClasses : Composes (SameClasses (σ := σ) (E := E)) where
  refl _ := rfl
  trans hst htu := Eq.trans htu hst

theorem sameClasses_maybePrepareShared (em : EntityMeta) :
    Keeps (SameClasses (σ := σ) (E := E)) (maybePrepareShared em) :=
  keeps_maybePrepareShared composes_sameClasses (fun _ _ _ => rfl) (fun _ _ _ => rfl) em

omit [Session σ] in
theorem Registry.isRegistered_congr {r r' : Registry} (h : r'.entities = r.entities)
    (className : String) : r'.isRegistered className = r.isRegistered className := by
  unfold Registry.isRegistered
  rw [h]

omit [Session σ] in
theorem Registry.isRegistered_addEntity (r : Registry) (className : String)
    (statements : EntityStatements) (other : String) :
    (r.addEntity className statements).isRegistered other =
      (other == className || r.isRegistered other) := by
  unfold Registry.isRegistered Registry.addEntity
  rw [List.lookup_cons]
  cases other == className <;> rfl

/-- Registering a class gives up no class, and the class is there if it succeeds. -/
theorem isRegistered_registerStatements (em : EntityMeta) (s : Site σ E) :
    (∀ className, s.registry.isRegistered className = true →
      (Op.registerStatements em s).2.registry.isRegistered className = true) ∧
    ((Op.registerStatements em s).1 = .ok () →
      (Op.registerStatements em s).2.registry.isRegistered em.className = true) := by
  rw [registerStatements_apply]
  split
  · next hregistered => exact ⟨fun _ => id, fun _ => hregistered⟩
  · have hcomp := composes_sameClasses (σ := σ) (E := E)
    have hprepared := keeps_prepareStatements hcomp (fun _ _ _ => rfl) em s
    rcases hrun : prepareStatements em s with ⟨_ | statements, t⟩
    · rw [hrun] at hprepared
      rw [bind_of_error hrun]
      exact ⟨fun className h => (Registry.isRegistered_congr hprepared className).trans h, nofun⟩
    · rw [hrun] at hprepared
      have hshared := hcomp.trans hprepared (sameClasses_maybePrepareShared em t)
      rw [bind_of_ok hrun, keepStatements_eq]
      rcases hrest : maybePrepareShared em t with ⟨_ | _, u⟩
      · rw [hrest] at hshared
        rw [bind_of_error hrest]
        exact ⟨fun className h => (Registry.isRegistered_congr hshared className).trans h, nofun⟩
      · rw [hrest] at hshared
        rw [bind_of_ok hrest, modifyRegistry_apply]
        refine ⟨fun className h => ?_, fun _ => ?_⟩
        · rw [Registry.isRegistered_addEntity, Registry.isRegistered_congr hshared, h, Bool.or_true]
        · rw [Registry.isRegistered_addEntity, beq_self_eq_true, Bool.true_or]

variable [LawfulSession σ]

theorem keepsSound_prepareShared (types : List (String × EntityMeta)) :
    Keeps (KeepsSound (σ := σ) (E := E) types) Op.prepareShared := by
  have hcomp := composes_keepsSound (σ := σ) (E := E) types
  apply keeps_get_bind
  intro _
  split
  · apply hcomp.forM
    intro ⟨action, text⟩ hmem s
    apply hcomp.bind_at (keeps_prepare (fun _ _ _ h => h) text s)
    intro p t hp hsound
    apply hsound.addShared
    rw [query_of_prepare hp]
    exact hmem
  · exact hcomp.pure _

theorem keepsSound_maybePrepareShared (em : EntityMeta) (types : List (String × EntityMeta)) :
    Keeps (KeepsSound (σ := σ) (E := E) types) (maybePrepareShared em) := by
  unfold maybePrepareShared
  split
  · exact keepsSound_prepareShared types
  · exact (composes_keepsSound types).pure _

theorem keepStatements_sound {em : EntityMeta} {statements : EntityStatements}
    {types : List (String × EntityMeta)} {name : String} {s : Site σ E}
    (hs : s.registry.Sound types) (hcarry : statements.Carry em) :
    ((keepStatements em statements s).1 = .ok () →
      (keepStatements em statements s).2.registry.Sound ((name, em) :: types)) ∧
    ∀ e, (keepStatements em statements s).1 = .error e →
      (keepStatements em statements s).2.registry.Sound types := by
  have hshared := keepsSound_maybePrepareShared em types s hs
  rw [keepStatements_eq]
  rcases hrun : maybePrepareShared em s with ⟨_ | _, t⟩
  · rw [hrun] at hshared
    rw [bind_of_error hrun]
    exact ⟨nofun, fun _ _ => hshared⟩
  · rw [hrun] at hshared
    rw [bind_of_ok hrun]
    refine ⟨fun _ => ?_, nofun⟩
    exact (hshared.cons _).addEntity List.mem_cons_self hcarry

/-- Registering a class leaves a sound registry: of the types known before if it fails, and of the
new type besides if it succeeds. -/
theorem registerStatements_sound {types : List (String × EntityMeta)} {s : Site σ E}
    (name : String) (em : EntityMeta) (hs : s.registry.Sound types) :
    ((Op.registerStatements em s).1 = .ok () →
      (Op.registerStatements em s).2.registry.Sound ((name, em) :: types)) ∧
    ∀ e, (Op.registerStatements em s).1 = .error e →
      (Op.registerStatements em s).2.registry.Sound types := by
  rw [registerStatements_apply]
  split
  · exact ⟨fun _ => hs.cons _, fun _ _ => hs⟩
  · have hcomp := composes_keepsSound (σ := σ) (E := E) types
    have hprepared := keeps_prepareStatements hcomp (fun _ _ _ h => h) em s hs
    rcases hrun : prepareStatements em s with ⟨_ | statements, t⟩
    · rw [hrun] at hprepared
      rw [bind_of_error hrun]
      exact ⟨nofun, fun _ _ => hprepared⟩
    · rw [hrun] at hprepared
      rw [bind_of_ok hrun]
      refine keepStatements_sound hprepared ?_
      unfold prepareStatements at hrun
      split at hrun
      · exact carry_of_prepareClustered hrun
      · exact carry_of_preparePlain hrun

/-! ### Binding an update -/

/-- No registered type has the class name of the given metadata and other metadata. -/
def SoleClass (types : List (String × EntityMeta)) (em : EntityMeta) : Prop :=
  ∀ x ∈ types, x.2.className = em.className → x.2 = em

/-- Properties in the order of their names. -/
def sortedByName (properties : List PropertyMeta) : List PropertyMeta :=
  properties.mergeSort fun a b => decide (a.name ≤ b.name)

theorem pairwise_mergeSort_names (names : List String) :
    (names.mergeSort fun a b => decide (a ≤ b)).Pairwise fun a b => decide (a ≤ b) = true := by
  apply List.pairwise_mergeSort
  · intro a b c hab hbc
    simp only [decide_eq_true_eq] at hab hbc ⊢
    exact String.le_trans hab hbc
  · intro a b
    simpa using String.le_total a b

/-- The key of sorted properties lists them as they stand. -/
theorem properties_ofProperties_sortedByName (className : String)
    (properties : List PropertyMeta) :
    (StatementKey.ofProperties className
      ((sortedByName properties).map fun pm => pm.name)).properties =
        (sortedByName properties).map fun pm => pm.name := by
  have hnames : (sortedByName properties).map (fun pm => pm.name) =
      (properties.map fun pm => pm.name).mergeSort fun a b => decide (a ≤ b) := by
    exact List.map_mergeSort fun _ _ _ _ => rfl
  rw [hnames]
  exact List.mergeSort_of_pairwise (pairwise_mergeSort_names _)

section

variable {types : List (String × EntityMeta)} {name : String} {em : EntityMeta}
  (hmem : (name, em) ∈ types) {properties : List PropertyMeta}
  (hsorted : (StatementKey.ofProperties em.className
    (properties.map fun pm => pm.name)).properties = properties.map fun pm => pm.name)
include hmem hsorted

theorem keepsSound_preparedUpdate :
    Keeps (KeepsSound (σ := σ) (E := E) types) (Op.preparedUpdate em properties) := by
  have hcomp := composes_keepsSound (σ := σ) (E := E) types
  intro s
  unfold Op.preparedUpdate
  rw [get_bind_apply]
  dsimp only
  apply hcomp.bind_at (fun hs => hs.get _)
  intro _ t _
  cases (s.registry.updates.get (StatementKey.ofProperties em.className
    (properties.map fun pm => pm.name))).1 with
  | some p => exact hcomp.refl t
  | none =>
    apply hcomp.bind_at (keeps_prepare (fun _ _ _ h => h) _ t)
    intro p u hp
    refine hcomp.bind_at (fun hs => hs.insert hmem rfl ?_) fun _ v _ => hcomp.refl v
    rw [query_of_prepare hp, hsorted, Template.update_eq_updateOf]

omit hmem in
/-- An update says what the template says for this class, or for another one of its name. -/
theorem query_of_preparedUpdate_of_class {s t : Site σ E} (hs : s.registry.Sound types)
    {p : Prepared} (h : Op.preparedUpdate em properties s = (.ok p, t)) :
    ∃ em', (em' = em ∨ ∃ name, (name, em') ∈ types ∧ em'.className = em.className) ∧
      p.query = Template.update em' properties := by
  unfold Op.preparedUpdate at h
  rw [get_bind_apply] at h
  dsimp only at h
  rw [bind_of_ok (modifyRegistry_apply _ _)] at h
  rcases hcached : (s.registry.updates.get (StatementKey.ofProperties em.className
    (properties.map fun pm => pm.name))).1 with _ | cached
  · rw [hcached] at h
    obtain ⟨p', u, hp, h⟩ := bind_eq_ok h
    obtain ⟨-, v, -, h⟩ := bind_eq_ok h
    obtain ⟨heq, -⟩ := Prod.mk.inj h
    rw [← Except.ok.inj heq]
    exact ⟨em, .inl rfl, query_of_prepare hp⟩
  · rw [hcached] at h
    obtain ⟨heq, -⟩ := Prod.mk.inj h
    obtain rfl := Except.ok.inj heq
    simp only [StatementCache.get] at hcached
    split at hcached
    · cases hcached
    · next found hfound =>
      unfold StatementCache.entry? at hfound
      have hkey : found.key = StatementKey.ofProperties em.className
          (properties.map fun pm => pm.name) := by
        simpa using List.find?_some hfound
      obtain ⟨name', em', hmem', hclass, htext⟩ := hs.update (List.mem_of_find?_eq_some hfound)
      rw [hkey] at hclass htext
      refine ⟨em', .inr ⟨name', hmem', hclass⟩, ?_⟩
      rw [Template.update_eq_updateOf, ← Option.some.inj hcached, htext, hsorted]

omit hmem in
/-- The update of a class that shares its name with no other says what its template says. -/
theorem query_of_preparedUpdate (hsole : SoleClass types em) {s t : Site σ E}
    (hs : s.registry.Sound types) {p : Prepared}
    (h : Op.preparedUpdate em properties s = (.ok p, t)) :
    p.query = Template.update em properties := by
  obtain ⟨em', hem', htext⟩ := query_of_preparedUpdate_of_class hsorted hs h
  rcases hem' with rfl | ⟨name, hin, hclass⟩
  · exact htext
  · obtain rfl := hsole _ hin hclass
    exact htext

end

theorem keepsSound_bindUpdate {types : List (String × EntityMeta)} {name : String}
    {em : EntityMeta} (hmem : (name, em) ∈ types) (T : EntityType E) (entity : E)
    (properties : List PropertyMeta) (options : Options) (level : Level) :
    Keeps (KeepsSound (σ := σ) (E := E) types)
      (Op.bindUpdate T em entity properties options level) := by
  have hcomp := composes_keepsSound (σ := σ) (E := E) types
  apply keeps_get_bind
  intro _
  apply hcomp.lift_bind
  intro _ _
  refine hcomp.bind (keepsSound_preparedUpdate hmem ?_) fun _ =>
    hcomp.lift_bind fun _ _ => hcomp.pure _
  exact properties_ofProperties_sortedByName _ _

end WideColumn
