import WideColumn.Persist.Register

/-!
# Payloads

What a statement says, apart from how it is sent: its text and the values bound to it. Registries
with the same statements bind the same payloads, at whatever levels and timestamps; which handles
the cached updates have does not matter, because the cache finds and gives up its entries by key and
by last use.
-/

namespace WideColumn

/-- The text and the bound values of a request. -/
def Request.payload (r : Request) : String × List Value := (r.query, r.values)

/-- The text and the bound values of a statement. -/
def Statement.payload (s : Statement) : String × List Value := (s.query, s.values)

@[simp] theorem Request.payload_statement (r : Request) : r.statement.payload = r.payload := by
  unfold Statement.payload payload
  rw [r.query_statement]
  rfl

/-! ### Cached updates -/

/-- The prepared statement without its handle. -/
def Prepared.anonymous (p : Prepared) : Prepared := { p with id := 0 }

theorem Prepared.anonymous_eq_iff {p p' : Prepared} :
    p'.anonymous = p.anonymous ↔ p'.query = p.query :=
  ⟨fun h => (Prepared.mk.inj h).2, congrArg (Prepared.mk 0)⟩

/-- The entry without the handle of its statement. -/
def CacheEntry.anonymous (e : CacheEntry) : CacheEntry := { e with prepared := e.prepared.anonymous }

namespace StatementCache

/-- The cache without the handles of its statements. -/
def anonymous (cache : StatementCache) : StatementCache :=
  { cache with entries := cache.entries.map CacheEntry.anonymous }

variable (cache : StatementCache) (key : StatementKey)

theorem anonymous_capacity : cache.anonymous.capacity = cache.capacity := rfl

theorem entry?_anonymous :
    cache.anonymous.entry? key = (cache.entry? key).map CacheEntry.anonymous := by
  unfold entry? anonymous
  exact List.find?_map ..

theorem contains_anonymous : cache.anonymous.contains key = cache.contains key := by
  unfold contains
  rw [entry?_anonymous, Option.isSome_map]

theorem size_anonymous : cache.anonymous.size = cache.size := List.length_map ..

/-- Looking up a statement does not depend on handles. -/
theorem get_anonymous : cache.anonymous.get key =
    ((cache.get key).1.map Prepared.anonymous, (cache.get key).2.anonymous) := by
  unfold get
  rw [entry?_anonymous]
  cases cache.entry? key with
  | none => rfl
  | some found =>
    have htouch : (cache.entries.map CacheEntry.anonymous).map (fun e =>
        if e.key == key then { e with lastUsed := cache.clock } else e) =
          (cache.entries.map fun e => if e.key == key then { e with lastUsed := cache.clock }
            else e).map CacheEntry.anonymous := by
      rw [List.map_map, List.map_map]
      apply List.map_congr_left
      intro e _
      show (if e.key == key then _ else _) = CacheEntry.anonymous (if e.key == key then _ else _)
      split <;> rfl
    exact congrArg (fun entries => (some found.prepared.anonymous,
      { cache with entries, clock := cache.clock + 1 })) htouch

theorem leastRecent_map_anonymous (entries : List CacheEntry) :
    leastRecent (entries.map CacheEntry.anonymous) =
      (leastRecent entries).map CacheEntry.anonymous := by
  induction entries with
  | nil => rfl
  | cons e rest ih =>
    rw [List.map_cons]
    unfold leastRecent
    rw [ih]
    cases leastRecent rest with
    | none => rfl
    | some other =>
      show (if other.lastUsed < e.lastUsed then _ else _) = Option.map _ (if _ then _ else _)
      split <;> rfl

theorem filter_map_anonymous (entries : List CacheEntry) :
    (entries.map CacheEntry.anonymous).filter (fun e => e.key != key) =
      (entries.filter fun e => e.key != key).map CacheEntry.anonymous := List.filter_map ..

theorem evict_anonymous : cache.anonymous.evict = cache.evict.anonymous := by
  unfold evict anonymous
  rw [leastRecent_map_anonymous]
  cases leastRecent cache.entries with
  | none => rfl
  | some old =>
    exact congrArg (fun entries => { cache with entries }) (filter_map_anonymous old.key _)

/-- Keep a statement under a key, in the place of what is kept there. -/
def put (cache : StatementCache) (key : StatementKey) (p : Prepared) : StatementCache :=
  { cache with
    entries := ⟨key, p, cache.clock⟩ :: cache.entries.filter fun e => e.key != key
    clock := cache.clock + 1 }

theorem insert_eq_put (p : Prepared) : cache.insert key p =
    if cache.capacity == 0 then cache
    else if !cache.contains key && cache.capacity ≤ cache.size then cache.evict.put key p
    else cache.put key p := by
  unfold insert
  split
  · rfl
  · split <;> rfl

theorem put_anonymous (p : Prepared) :
    cache.anonymous.put key p.anonymous = (cache.put key p).anonymous :=
  congrArg (fun entries => { cache with
    entries := ⟨key, p.anonymous, cache.clock⟩ :: entries, clock := cache.clock + 1 })
    (filter_map_anonymous key cache.entries)

/-- Keeping a statement does not depend on handles. -/
theorem insert_anonymous (p : Prepared) :
    cache.anonymous.insert key p.anonymous = (cache.insert key p).anonymous := by
  rw [insert_eq_put, insert_eq_put, contains_anonymous, size_anonymous, evict_anonymous,
    put_anonymous, put_anonymous, anonymous_capacity]
  split
  · rfl
  · split <;> rfl

end StatementCache

/-! ### Binding -/

namespace Registry

/-- Registries with the same statements, except for the handles of cached updates. -/
structure SameTexts (r r' : Registry) : Prop where
  entities : r'.entities = r.entities
  sharedCounters : r'.sharedCounters = r.sharedCounters
  updates : r'.updates.anonymous = r.updates.anonymous

variable {r r' : Registry} {em : EntityMeta} {level level' : Level}

theorem SameTexts.refl (r : Registry) : SameTexts r r := ⟨rfl, rfl, rfl⟩

/-- Cached updates aside the registries are the same. -/
theorem SameTexts.eq (h : SameTexts r r') : r' = { r with updates := r'.updates } := by
  obtain ⟨entities, shared, updates⟩ := r'
  rw [← h.entities, ← h.sharedCounters]

/-- After the same checks it is enough that the rest says the same. -/
theorem map_bind_congr {ε α β γ : Type} {x : Except ε α} {f f' : α → Except ε β} {g : β → γ}
    (h : ∀ a, (f a).map g = (f' a).map g) : (x >>= f).map g = (x >>= f').map g := by
  cases x with
  | error e => rfl
  | ok a => exact h a

theorem payload_bindKey (p : Prepared) (key : List Value) :
    (bindKey em p key level').map Request.payload = (bindKey em p key level).map Request.payload :=
  map_bind_congr fun _ => rfl

section

variable (h : SameTexts r r')
include h

theorem SameTexts.statements_eq (em : EntityMeta) : r'.statements em = r.statements em := by
  rw [h.eq]
  rfl

theorem SameTexts.payload_bindInsert {E : Type} {T : EntityType E} {e e' : E}
    {options options' : Options} (hkey : T.key e' = T.key e) (hvalues : T.values e' = T.values e)
    (httl : options'.ttl = options.ttl) :
    (r'.bindInsert T em e' options' level').map Request.payload =
      (r.bindInsert T em e options level).map Request.payload := by
  have hvalue : insertValue T e' = insertValue T e := by
    funext name
    unfold insertValue
    rw [hvalues]
  have httl : ttlValue options' = ttlValue options := by
    unfold ttlValue
    rw [httl]
  unfold bindInsert
  rw [h.statements_eq, hkey, hvalue, httl]
  exact map_bind_congr fun _ => map_bind_congr fun _ => map_bind_congr fun _ =>
    map_bind_congr fun _ => rfl

theorem SameTexts.payload_bindRemoval {key : List Value} {options options' : Options} :
    (r'.bindRemoval em key options' level').map (List.map Request.payload) =
      (r.bindRemoval em key options level).map (List.map Request.payload) := by
  unfold bindRemoval
  rw [h.statements_eq]
  refine map_bind_congr fun _ => map_bind_congr fun _ => congrArg Except.ok ?_
  rw [List.map_map, List.map_map]
  rfl

variable {pm : PropertyMeta} {key : List Value}

theorem SameTexts.payload_bindClustered {action : CounterAction} {name : String} :
    (r'.bindClustered action name em key level').map Request.payload =
      (r.bindClustered action name em key level).map Request.payload := by
  rw [h.eq]
  exact map_bind_congr fun p => payload_bindKey p key

theorem SameTexts.payload_bindShared {action : CounterAction} :
    (r'.bindShared action em pm key level').map Request.payload =
      (r.bindShared action em pm key level).map Request.payload := by
  rw [h.eq]
  exact map_bind_congr fun _ => map_bind_congr fun _ => rfl

theorem SameTexts.payload_bindSharedDelta {delta : Int} :
    (r'.bindSharedDelta em pm key delta level').map Request.payload =
      (r.bindSharedDelta em pm key delta level).map Request.payload := by
  rw [h.eq]
  exact map_bind_congr fun _ => map_bind_congr fun _ => map_bind_congr fun _ => rfl

theorem SameTexts.payload_bindClusteredDelta {delta : Int} :
    (r'.bindClusteredDelta em pm key delta level').map Request.payload =
      (r.bindClusteredDelta em pm key delta level).map Request.payload := by
  rw [h.eq]
  exact map_bind_congr fun _ => map_bind_congr fun _ => map_bind_congr fun _ => rfl

end

end Registry

end WideColumn
