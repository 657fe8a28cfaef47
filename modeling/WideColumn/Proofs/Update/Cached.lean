import WideColumn.Proofs.Rejection.Binding
import WideColumn.Proofs.Update.Immediate

/-!
# Updates from the cache

A prepared update is found again by its class and the names of its properties, whatever was bound,
kept and given up before. So the cache cannot be seen: an update says what it would say if its
statement were prepared for it. What the cache saves is the preparing, which is asked for exactly
when no statement is kept for this class and these properties. Main statement: `cache_contract`.
-/

namespace WideColumn

open Op

variable {σ E : Type}

/-! ### The cache -/

namespace StatementCache

variable {cache : StatementCache} {key : StatementKey}

theorem get_of_not_contains (h : cache.contains key = false) : cache.get key = (none, cache) := by
  have hnone : cache.entry? key = none := Option.isSome_eq_false_iff.1 h |> Option.isNone_iff_eq_none.1
  unfold get
  rw [hnone]

theorem get_of_contains (h : cache.contains key = true) :
    ∃ p, (cache.get key).1 = some p ∧ (cache.get key).2.contains key = true := by
  obtain ⟨found, hfound⟩ := Option.isSome_iff_exists.1 h
  have hkey := key_of_entry?_eq_some hfound
  refine ⟨found.prepared, by unfold get; rw [hfound], ?_⟩
  unfold get
  rw [hfound]
  unfold contains entry?
  rw [List.find?_isSome]
  exact ⟨_, List.mem_map_of_mem (List.mem_of_find?_eq_some hfound), by simp [hkey]⟩

/-- What is kept is found, if there is room at all. -/
theorem contains_insert (hroom : 0 < cache.capacity) (p : Prepared) :
    (cache.insert key p).contains key = true := by
  have hne : (cache.capacity == 0) = false := by simpa using Nat.pos_iff_ne_zero.1 hroom
  unfold insert
  rw [hne]
  unfold contains entry?
  rw [List.find?_isSome]
  exact ⟨_, List.mem_cons_self, by simp⟩

end StatementCache

/-! ### Keys -/

/-- Lists of names are sorted alike if and only if they are lists of the same names. -/
theorem mergeSort_names_eq_iff {names others : List String} :
    names.mergeSort (fun a b => decide (a ≤ b)) = others.mergeSort (fun a b => decide (a ≤ b)) ↔
      names.Perm others := by
  constructor
  · intro h
    have hperm := (List.mergeSort_perm names fun a b => decide (a ≤ b)).symm
    rw [h] at hperm
    exact hperm.trans (List.mergeSort_perm ..)
  · intro h
    refine List.Perm.eq_of_pairwise ?_ (pairwise_mergeSort_names names)
      (pairwise_mergeSort_names others)
      ((List.mergeSort_perm ..).trans (h.trans (List.mergeSort_perm ..).symm))
    intro a b _ _ hab hba
    simp only [decide_eq_true_eq] at hab hba
    exact String.le_antisymm hab hba

/-- An update to be bound. -/
structure UpdateBinding (E : Type) where
  type : EntityType E
  entityMeta : EntityMeta
  entity : E
  /-- What is written, in any order. -/
  properties : List PropertyMeta
  options : Options
  level : Level

namespace UpdateBinding

variable (u : UpdateBinding E)

/-- The names of what is written. -/
def names : List String := u.properties.map fun pm => pm.name

/-- What the statement is kept under. -/
def key : StatementKey :=
  .ofProperties u.entityMeta.className ((sortedByName u.properties).map fun pm => pm.name)

/-- The text of the update. -/
def text : String := Template.update u.entityMeta (sortedByName u.properties)

/-- The values of the update. -/
def values : Except Error (List Value) :=
  Registry.updateValues u.type u.entityMeta u.entity (sortedByName u.properties) u.options

/-- What the update says when its statement is prepared for it. -/
def content : Except Error Content := do
  return { text := u.text, values := ← u.values, level := u.level, timestamp := u.options.timestamp }

/-- Bind the update. -/
def run [Session σ] : Op σ E Request :=
  Op.bindUpdate u.type u.entityMeta u.entity u.properties u.options u.level

/-- Whether the class of the update is registered. -/
def isRegistered (s : Site σ E) : Bool := s.registry.isRegistered u.entityMeta.className

/-- Whether a statement is kept for the class and the properties of the update. -/
def isCached (s : Site σ E) : Bool := s.registry.updates.contains u.key

/-- A class and its properties determine the key, and it determines them. -/
theorem key_eq_iff {u v : UpdateBinding E} : v.key = u.key ↔
    v.entityMeta.className = u.entityMeta.className ∧ v.names.Perm u.names := by
  have hkey (w : UpdateBinding E) : w.key.properties =
      w.names.mergeSort fun a b => decide (a ≤ b) := by
    unfold key
    rw [properties_ofProperties_sortedByName]
    exact List.map_mergeSort fun _ _ _ _ => rfl
  rw [← mergeSort_names_eq_iff, ← hkey, ← hkey]
  constructor
  · intro h
    exact ⟨congrArg StatementKey.className h, congrArg StatementKey.properties h⟩
  · rintro ⟨hclass, hproperties⟩
    exact congrArg₂ StatementKey.mk hclass hproperties

end UpdateBinding

/-! ### Binding -/

/-- The site with another cache. -/
def Site.withUpdates (updates : StatementCache) (s : Site σ E) : Site σ E :=
  { s with registry := { s.registry with updates } }

/-- The site after it was asked to prepare a text. -/
def Site.afterPrepare [Session σ] (text : String) (s : Site σ E) : Site σ E :=
  { s with trace := s.trace ++ [.prepared text]
           session := (Session.prepare s.session text).2 }

namespace UpdateBinding

variable [Session σ] {u : UpdateBinding E} {s t : Site σ E}

/-- Find the statement of the update, or prepare it. -/
def prepared (u : UpdateBinding E) : Op σ E Prepared :=
  Op.preparedUpdate u.entityMeta (sortedByName u.properties)

theorem prepared_of_cached (h : u.isCached s = true) : ∃ p updates,
    u.prepared s = (.ok p, s.withUpdates updates) ∧ updates.contains u.key = true := by
  obtain ⟨p, hfound, hkept⟩ := StatementCache.get_of_contains h
  refine ⟨p, (s.registry.updates.get u.key).2, ?_, hkept⟩
  unfold key at hfound
  unfold prepared Op.preparedUpdate
  rw [get_bind_apply]
  dsimp only
  rw [bind_of_ok (modifyRegistry_apply _ _), hfound]
  rfl

theorem prepared_of_not_cached (h : u.isCached s = false) : u.prepared s =
    ((Session.prepare s.session u.text).1,
      match (Session.prepare s.session u.text).1 with
      | .ok p => (s.afterPrepare u.text).withUpdates (s.registry.updates.insert u.key p)
      | .error _ => s.afterPrepare u.text) := by
  have hmiss := StatementCache.get_of_not_contains h
  unfold key at hmiss
  unfold prepared Op.preparedUpdate
  rw [get_bind_apply]
  dsimp only
  rw [bind_of_ok (modifyRegistry_apply _ _), hmiss]
  dsimp only
  have hask := prepare_apply u.text s
  cases hanswer : (Session.prepare s.session u.text).1 with
  | error e =>
    rw [hanswer] at hask
    exact bind_of_error hask _
  | ok p =>
    rw [hanswer] at hask
    exact bind_of_ok hask _

theorem isOk_prepared : (u.prepared s).1.isOk =
    (u.isCached s || (Session.prepare s.session u.text).1.isOk) := by
  cases hcached : u.isCached s with
  | true =>
    obtain ⟨p, updates, hrun, -⟩ := prepared_of_cached hcached
    rw [hrun]
    rfl
  | false =>
    rw [prepared_of_not_cached hcached]
    rfl

/-- Nothing is asked of the session when the statement is kept. -/
theorem trace_prepared : (u.prepared s).2.trace =
    s.trace ++ if u.isCached s then [] else [.prepared u.text] := by
  cases hcached : u.isCached s with
  | true =>
    obtain ⟨p, updates, hrun, -⟩ := prepared_of_cached hcached
    rw [hrun]
    exact (List.append_nil _).symm
  | false =>
    rw [prepared_of_not_cached hcached]
    cases (Session.prepare s.session u.text).1 <;> rfl

/-- If there is room at all, the statement is kept afterwards. -/
theorem isCached_prepared (hroom : 0 < s.registry.updates.capacity)
    (hok : (u.prepared s).1.isOk = true) : u.isCached (u.prepared s).2 = true := by
  cases hcached : u.isCached s with
  | true =>
    obtain ⟨p, updates, hrun, hkept⟩ := prepared_of_cached hcached
    rw [hrun]
    exact hkept
  | false =>
    rw [prepared_of_not_cached hcached] at hok ⊢
    cases hanswer : (Session.prepare s.session u.text).1 with
    | error e =>
      rw [hanswer] at hok
      cases hok
    | ok p => exact StatementCache.contains_insert hroom p

theorem run_of_unregistered (h : u.isRegistered s = false) :
    ∃ e, u.run s = (.error (.failed e), s) := by
  have hmissing : ∃ e, s.registry.statements u.entityMeta = .error e := by
    unfold Registry.statements
    rw [Option.isNone_iff_eq_none.1 (Option.isSome_eq_false_iff.1 h)]
    exact ⟨_, rfl⟩
  obtain ⟨e, he⟩ := hmissing
  unfold run Op.bindUpdate
  rw [get_bind_apply, lift_bind_of_error he]
  exact ⟨e, rfl⟩

/-- A binding prepares its statement and encodes its values. -/
theorem run_of_registered (h : u.isRegistered s = true) :
    u.run s = (u.prepared >>= fun p => (liftM u.values : Op σ E (List Value)) >>= fun values =>
      pure ((Request.bound p values u.level).withTimestamp u.options.timestamp)) s := by
  obtain ⟨statements, hstatements⟩ := Registry.statements_of_isRegistered h
  unfold run Op.bindUpdate
  rw [get_bind_apply, lift_bind_of_ok hstatements]
  rfl

/-- Encoding the values changes nothing. -/
theorem run_eq (h : u.isRegistered s = true) : u.run s =
    ((do let p ← (u.prepared s).1
         let values ← u.values.mapError Stop.failed
         pure ((Request.bound p values u.level).withTimestamp u.options.timestamp)),
      (u.prepared s).2) := by
  rw [run_of_registered h, bind_apply]
  rcases u.prepared s with ⟨e | p, t⟩
  · rfl
  · dsimp only
    cases u.values <;> rfl

/-- A binding succeeds for a registered class, whose statement is kept or prepared, and values that
can be encoded. -/
theorem isOk_run : (u.run s).1.isOk = (u.isRegistered s &&
    (u.isCached s || (Session.prepare s.session u.text).1.isOk) && u.values.isOk) := by
  cases hregistered : u.isRegistered s with
  | false =>
    obtain ⟨e, he⟩ := run_of_unregistered hregistered
    rw [he]
    rfl
  | true =>
    rw [run_eq hregistered, ← isOk_prepared]
    cases (u.prepared s).1 <;> cases u.values <;> rfl

/-- The session is asked for the statement when the class is registered and none is kept. -/
theorem trace_run : (u.run s).2.trace =
    s.trace ++ if u.isRegistered s && !u.isCached s then [.prepared u.text] else [] := by
  cases hregistered : u.isRegistered s with
  | false =>
    obtain ⟨e, he⟩ := run_of_unregistered hregistered
    rw [he]
    exact (List.append_nil _).symm
  | true =>
    rw [run_eq hregistered, trace_prepared]
    cases u.isCached s <;> rfl

theorem isCached_run (hroom : 0 < s.registry.updates.capacity) (hok : (u.run s).1.isOk = true) :
    u.isCached (u.run s).2 = true := by
  have hregistered : u.isRegistered s = true := by
    rw [isOk_run, Bool.and_eq_true, Bool.and_eq_true] at hok
    exact hok.1.1
  rw [run_eq hregistered] at hok ⊢
  refine isCached_prepared hroom ?_
  cases hprepared : (u.prepared s).1 with
  | error e =>
    rw [hprepared] at hok
    cases hok
  | ok p => rfl

section

variable [LawfulSession σ] {types : List (String × EntityMeta)}

/-- A binding that succeeds says what the update says, if no other class has the name of its class. -/
theorem content_of_run (hsole : SoleClass types u.entityMeta) (hs : s.registry.Sound types)
    {r : Request} (hrun : (u.run s).1 = .ok r) : u.content = .ok r.statement.content := by
  cases hregistered : u.isRegistered s with
  | false =>
    obtain ⟨e, he⟩ := run_of_unregistered hregistered
    rw [he] at hrun
    cases hrun
  | true =>
    rw [run_eq hregistered] at hrun
    obtain ⟨p, hp, hrun⟩ := except_bind_eq_ok hrun
    obtain ⟨values, hvalues, hrun⟩ := except_bind_eq_ok hrun
    have hquery := query_of_preparedUpdate
      (properties_ofProperties_sortedByName u.entityMeta.className u.properties) hsole hs
      (show Op.preparedUpdate u.entityMeta (sortedByName u.properties) s = (.ok p, _) from
        Prod.ext hp rfl)
    have hencoded : u.values = .ok values := by
      cases hresult : u.values with
      | error e =>
        rw [hresult] at hvalues
        cases hvalues
      | ok encoded =>
        rw [hresult] at hvalues
        exact congrArg _ (Except.ok.inj hvalues)
    have htext : u.text = p.query := hquery.symm
    unfold content
    rw [hencoded, htext, ← Except.ok.inj hrun]
    rfl

end

end UpdateBinding

/-! ### Histories -/

/-- The sites on which classes were registered and updates bound, in any order and with whatever
success, since there was nothing in the registry. -/
inductive UpdateHistory [Session σ] (classes : List EntityMeta) : Site σ E → Prop
  | start {s : Site σ E} {capacity : Nat} : s.registry = .ofCapacity capacity →
      UpdateHistory classes s
  | register {s : Site σ E} {em : EntityMeta} : em ∈ classes → UpdateHistory classes s →
      UpdateHistory classes (Op.registerStatements em s).2
  | bind {s : Site σ E} (u : UpdateBinding E) : u.entityMeta ∈ classes →
      UpdateHistory classes s → UpdateHistory classes (u.run s).2

/-- Classes as types that go by the names of the classes. -/
def typesOfClasses (classes : List EntityMeta) : List (String × EntityMeta) :=
  classes.map fun em => (em.className, em)

theorem mem_typesOfClasses {classes : List EntityMeta} {em : EntityMeta} (hem : em ∈ classes) :
    (em.className, em) ∈ typesOfClasses classes := List.mem_map.2 ⟨em, hem, rfl⟩

/-- Classes with different names are known by their names. -/
theorem soleClass_typesOfClasses {classes : List EntityMeta}
    (hnames : (classes.map fun em => em.className).Nodup) {em : EntityMeta} (hem : em ∈ classes) :
    SoleClass (typesOfClasses classes) em := by
  intro x hx hclass
  obtain ⟨other, hother, rfl⟩ := List.mem_map.1 hx
  exact List.inj_on_of_nodup_map hnames hother hem hclass

/-- A registry whose statements are those of some types has those of more types. -/
theorem Registry.Sound.mono {r : Registry} {types more : List (String × EntityMeta)}
    (h : r.Sound types) (hmore : types ⊆ more) : r.Sound more where
  entity he := by
    obtain ⟨name, em, hmem, hclass, hcarry⟩ := h.entity he
    exact ⟨name, em, hmore hmem, hclass, hcarry⟩
  sharedCounter := h.sharedCounter
  update he := by
    obtain ⟨name, em, hmem, hclass, htext⟩ := h.update he
    exact ⟨name, em, hmore hmem, hclass, htext⟩

/-- Giving up all cached updates does no harm. -/
theorem Registry.Sound.withUpdates_ofCapacity {s : Site σ E} {types : List (String × EntityMeta)}
    (h : s.registry.Sound types) (capacity : Nat) :
    (s.withUpdates (.ofCapacity capacity)).registry.Sound types where
  entity := h.entity
  sharedCounter := h.sharedCounter
  update he := by cases he

/-- Registering one of some classes, with whatever success, adds statements of them only. -/
theorem keepsSound_registerStatements [Session σ] [LawfulSession σ]
    {types : List (String × EntityMeta)} {name : String} {em : EntityMeta}
    (hmem : (name, em) ∈ types) :
    Keeps (KeepsSound (σ := σ) (E := E) types) (Op.registerStatements em) := by
  intro s hs
  obtain ⟨hok, herror⟩ := registerStatements_sound name em hs
  cases hrun : (Op.registerStatements em s).1 with
  | error e => exact herror e hrun
  | ok _ => exact (hok hrun).mono (List.cons_subset.2 ⟨hmem, List.Subset.refl _⟩)

theorem UpdateHistory.sound [Session σ] [LawfulSession σ] {classes : List EntityMeta} {s : Site σ E}
    (h : UpdateHistory classes s) : s.registry.Sound (typesOfClasses classes) := by
  induction h with
  | @start s capacity hstart =>
    rw [hstart]
    exact (Registry.Sound.ofCapacity capacity).mono (List.nil_subset _)
  | @register s em hem _ ih => exact keepsSound_registerStatements (mem_typesOfClasses hem) s ih
  | bind u hu _ ih =>
    exact keepsSound_bindUpdate (mem_typesOfClasses hu) u.type u.entity u.properties u.options
      u.level _ ih

/-! ### The contract -/

namespace UpdateBinding

/-- What binding an update owes to a caller who does not know about the cache. -/
structure CacheContract [Session σ] (u : UpdateBinding E) (s : Site σ E) : Prop where
  /-- The request says what the template and the entity say, whatever is in the cache. -/
  answers {r : Request} : (u.run s).1 = .ok r → u.content = .ok r.statement.content
  /-- When a cache with nothing in it, of whatever capacity, gives a request, this one gives one that
  says the same. -/
  afresh {capacity : Nat} {fresh : Request} :
    (u.run (s.withUpdates (.ofCapacity capacity))).1 = .ok fresh →
      ∃ r, (u.run s).1 = .ok r ∧ r.statement.content = fresh.statement.content
  /-- It is given for a registered class, if the statement is kept or can be prepared, and the values
  can be encoded. -/
  succeeds : (u.run s).1.isOk = (u.isRegistered s &&
    (u.isCached s || (Session.prepare s.session u.text).1.isOk) && u.values.isOk)
  /-- The statement is prepared if none is kept for the class and the properties, and only then. -/
  asks : (u.run s).2.trace =
    s.trace ++ if u.isRegistered s && !u.isCached s then [.prepared u.text] else []
  /-- Then it is kept, if the cache has room at all. -/
  keeps : 0 < s.registry.updates.capacity → (u.run s).1.isOk = true →
    u.isCached (u.run s).2 = true
  /-- What is kept for an update is kept for those of the same class with the same properties, and
  for no others. -/
  shares (v : UpdateBinding E) : v.key = u.key ↔
    v.entityMeta.className = u.entityMeta.className ∧ v.names.Perm u.names
  /-- Properties that are not listed twice are the same when they have the same names. -/
  sets (v : UpdateBinding E) : v.names.Nodup → u.names.Nodup →
    (v.key = u.key ↔ v.entityMeta.className = u.entityMeta.className ∧
      ∀ name, name ∈ v.names ↔ name ∈ u.names)

/-- Whatever classes were registered under different names and whatever updates of them were bound,
with a cache of any capacity: nothing but the preparing tells that there is a cache. -/
theorem cache_contract [Session σ] [LawfulSession σ] {classes : List EntityMeta}
    (hnames : (classes.map fun em => em.className).Nodup) {s : Site σ E}
    (hs : UpdateHistory classes s) {u : UpdateBinding E} (hu : u.entityMeta ∈ classes) :
    u.CacheContract s := by
  have hsole := soleClass_typesOfClasses hnames hu
  constructor
  case answers => exact content_of_run hsole hs.sound
  case afresh =>
    intro capacity fresh hfresh
    have hok := isOk_run (u := u) (s := s.withUpdates (.ofCapacity capacity))
    rw [hfresh] at hok
    -- Nothing is cached there, so the session was asked what it may be asked here.
    have hbound : (u.isRegistered s && (Session.prepare s.session u.text).1.isOk &&
      u.values.isOk) = true := hok.symm
    have hrun : (u.run s).1.isOk = true := by
      rw [isOk_run]
      grind
    obtain ⟨r, hr⟩ := exists_eq_ok_of_isOk hrun
    have hcontent := content_of_run hsole hs.sound hr
    rw [content_of_run hsole (hs.sound.withUpdates_ofCapacity capacity) hfresh] at hcontent
    exact ⟨r, hr, (Except.ok.inj hcontent).symm⟩
  case succeeds => exact isOk_run
  case asks => exact trace_run
  case keeps => exact isCached_run
  case shares => exact fun v => key_eq_iff
  case sets =>
    intro v hv hu
    rw [key_eq_iff, List.perm_ext_iff_of_nodup hv hu]

end UpdateBinding

/-! ### Pages -/

namespace Page

/-- A property of pages, as one of notes. -/
def ofNote (pm : PropertyMeta) : PropertyMeta := { pm with entityClass := "Note" }

/-- Notes have the properties of pages, and a table of their own. -/
def noteMeta : EntityMeta :=
  { entityMeta "notes" with
    className := "Note"
    id := ofNote (entityMeta "notes").id
    properties := (entityMeta "notes").properties.map ofNote }

/-- Give an entity of a class a title. -/
def titling (em : EntityMeta) : UpdateBinding Page where
  type := plain
  entityMeta := em
  entity := ⟨.bigint 1, .text "Start", .empty⟩
  properties := [titleMeta]
  options := .none
  level := .one

/-- Pages and notes are registered, with room for the update of one of them. -/
def narrow : Site Script Page :=
  (Op.registerStatements noteMeta (Op.registerStatements (entityMeta "pages")
    { Site.ofConfig .empty .standard with registry := .ofCapacity 1 }).2).2

/-- A page was given a title, then a note. -/
def evicting : Site Script Page :=
  ((titling noteMeta).run ((titling (entityMeta "pages")).run narrow).2).2

theorem updateHistory_evicting : UpdateHistory [entityMeta "pages", noteMeta] evicting := by
  have hnarrow : UpdateHistory [entityMeta "pages", noteMeta] narrow :=
    .register (by simp) (.register (by simp) (.start rfl))
  exact .bind (titling noteMeta) (by simp [titling]) (.bind (titling (entityMeta "pages"))
    (by simp [titling]) hnarrow)

/-- The statement of pages was given up for the one of notes; it is prepared again, and says the same
as before. -/
theorem cache_contract_evicting :
    (titling (entityMeta "pages")).CacheContract evicting ∧
      (titling (entityMeta "pages")).isCached evicting = false ∧
      (titling noteMeta).isCached evicting = true ∧
      ((titling (entityMeta "pages")).run evicting).1.toOption.map Request.query =
        some "UPDATE pages USING TTL :ttl SET title=:title WHERE id=:id;" :=
  ⟨UpdateBinding.cache_contract (by decide +kernel) updateHistory_evicting (by simp [titling]),
    by decide +kernel, by decide +kernel, by decide +kernel⟩

end Page

end WideColumn
