import WideColumn.Persist.Operation
import WideColumn.Query.Index
import WideColumn.Query.SliceQuery
import WideColumn.Query.Typed

/-!
# The manager

The entry point of the library: registration of entity types, the operations on entities, and
queries. Every operation runs with an immediate outbox of its own; the `...In` forms run with the
outbox of the site, which a batch window uses.
-/

namespace WideColumn

namespace Config

/-- Everything at the standard level. -/
def standard : Config :=
  { readLevel := .standard, writeLevel := .standard, readByTable := [], writeByTable := [],
    cacheCapacity := StatementCache.defaultCapacity }

/-- The metadata with the levels that this configuration gives: by table, else declared, else the
default. -/
def resolve (config : Config) (em : EntityMeta) : EntityMeta :=
  em.withLevels
    (((TableLevels.find? config.readByTable em.tableName).or em.declaredReadLevel).getD config.readLevel)
    (((TableLevels.find? config.writeByTable em.tableName).or em.declaredWriteLevel).getD config.writeLevel)

end Config

/-- A site before any operation. -/
def Site.ofConfig {σ E : Type} (session : σ) (config : Config) : Site σ E :=
  { session, trace := [], workspace := .empty, registry := .ofCapacity config.cacheCapacity,
    outbox := .ofMode .immediate config.writeLevel, config, types := [] }

namespace Manager

variable {σ E : Type} [Session σ]

/-- The metadata of a registered type. -/
def entityMeta (T : EntityType E) : Op σ E EntityMeta := do
  match (← get).types.lookup T.typeName with
  | some em => return em
  | none =>
    throw (.failed (.ofViolation T.shortName .notRegistered
      s!"The entity class '{T.shortName}' is not managed"))

/-- Register a type: build its metadata, choose its levels, and prepare its statements. -/
def register (T : EntityType E) : Op σ E EntityMeta := do
  match (← get).types.lookup T.typeName with
  | some em => return em
  | none =>
    let em := (← get).config.resolve (← T.entityMeta)
    Op.registerStatements em
    modify fun s => { s with types := (T.typeName, em) :: s.types }
    return em

/-- The options of a call with the level of the window that is open. -/
def windowOptions (options : Options) : Op σ E Options := do
  Levels.applyWindow options (← get).outbox.batchLevel

/-- A call on entities of a registered type. -/
def call (T : EntityType E) (options : Options) : Op σ E (Call E) := do
  let em ← entityMeta T
  let effective ← windowOptions options
  return { type := T, entityMeta := em, options := effective, proxyOptions := options }

/-! ## With the outbox of the site -/

/-- The rules for new rows of counter tables: no time to live, and at least one delta. -/
def checkCounterRow (T : EntityType E) (em : EntityMeta) (entity : E) (options : Options) :
    Except Error Unit := do
  if em.isClusteredCounter then
    if options.ttl.isSome then
      throw (.ofConfig s!"Cannot set TTL for clustered counter entity '{em.className}'")
    if !(em.counters.any fun pm => (T.counter? entity pm.name).any Counter.hasPending) then
      throw (.ofViolation em.className .required
        s!"The clustered counter entity '{em.className}' should have at least one counter value to persist")

/-- Write a new entity, which must not be managed yet. -/
def persistIn (T : EntityType E) (entity : Tracked E) (options : Options) : Op σ E Proxy := do
  let em ← entityMeta T
  match entity with
  | .proxy _ =>
    throw (.failed (.ofViolation em.className .alreadyProxy
      s!"The entity '{em.className}' is already in 'managed' state"))
  | .bare entity =>
    checkCounterRow T em entity options
    let _ ← em.id.encodeComponents (T.key entity)
    (← call T options).persist entity

/-- Write what changed on a proxy. -/
def updateIn (T : EntityType E) (p : Proxy) (options : Options) : Op σ E Unit := do
  (← call T options).update p

/-- Delete an entity, managed or not. -/
def removeIn (T : EntityType E) (entity : Tracked E) (options : Options) : Op σ E Unit := do
  let c ← call T options
  match entity with
  | .proxy p => c.remove (← Op.cell p.handle).entity
  | .bare entity => c.remove entity

/-- Delete the row of a key. -/
def removeByIdIn (T : EntityType E) (key : List Value) (options : Options) : Op σ E Unit := do
  (← call T options).removeByKey key

/-- Read the entity of a key. -/
def findIn (T : EntityType E) (key : List Value) (options : Options) :
    Op σ E (Option Proxy) := do
  (← call T options).find key

/-- A proxy that has only its key. -/
def getProxyIn (T : EntityType E) (key : List Value) (options : Options) : Op σ E Proxy := do
  (← call T options).proxyOfKey key

/-- Read a proxy again. -/
def refreshIn (T : EntityType E) (p : Proxy) (options : Options) : Op σ E Refresh := do
  (← call T options).refresh p

/-! ## At once -/

/-- Run an operation with an immediate outbox. -/
def immediately {α : Type} (op : Op σ E α) : Op σ E α := do
  Op.withOutbox (.ofMode .immediate (← get).config.writeLevel) op

/-- Write a new entity. -/
def persist (T : EntityType E) (entity : Tracked E) (options : Options) : Op σ E Proxy :=
  immediately (persistIn T entity options)

/-- Write what changed on a proxy. -/
def update (T : EntityType E) (p : Proxy) (options : Options) : Op σ E Unit :=
  immediately (updateIn T p options)

/-- Delete an entity. -/
def remove (T : EntityType E) (entity : Tracked E) (options : Options) : Op σ E Unit :=
  immediately (removeIn T entity options)

/-- Delete the row of a key. -/
def removeById (T : EntityType E) (key : List Value) (options : Options) : Op σ E Unit :=
  immediately (removeByIdIn T key options)

/-- Read the entity of a key. -/
def find (T : EntityType E) (key : List Value) (options : Options) : Op σ E (Option Proxy) :=
  immediately (findIn T key options)

/-- A proxy that has only its key. -/
def getProxy (T : EntityType E) (key : List Value) (options : Options) : Op σ E Proxy :=
  immediately (getProxyIn T key options)

/-- Read a proxy again. -/
def refresh (T : EntityType E) (p : Proxy) (options : Options) : Op σ E Refresh :=
  immediately (refreshIn T p options)

/-- Read what is missing on a proxy, with the options recorded on it. -/
def complete (T : EntityType E) (p : Proxy) : Op σ E Unit := do
  let em ← entityMeta T
  let options := (← Op.cell p.handle).options
  immediately
    (({ type := T, entityMeta := em, options, proxyOptions := options } : Call E).complete p)

/-- Read what is missing on several proxies, until one of them fails. -/
def completeAll (T : EntityType E) (proxies : List Proxy) : Op σ E Unit :=
  proxies.forM (complete T)

/-- The entity of a proxy, which is not managed any more. -/
def release (p : Proxy) : Op σ E E := do
  return (← Op.cell p.handle).entity

/-- The entities of several proxies. -/
def releaseAll (proxies : List Proxy) : Op σ E (List E) := proxies.mapM release

/-- Read what is missing on a proxy, and give its entity. -/
def completeAndRelease (T : EntityType E) (p : Proxy) : Op σ E E := do
  complete T p
  release p

/-- Read what is missing on several proxies, and give their entities. -/
def completeAndReleaseAll (T : EntityType E) (proxies : List Proxy) : Op σ E (List E) := do
  completeAll T proxies
  releaseAll proxies

/-! ## Queries -/

/-- The properties that a row fills in: the key, and every other property with a column. -/
def loadedFromRow (em : EntityMeta) (row : Row) : List String :=
  em.id.name ::
    ((em.properties.filter fun pm => !pm.isId && row.hasColumn pm.name).map fun pm => pm.name)

/-- The proxy of a row. Its key is that of the entity after its interceptors ran. -/
def proxyOfRow (T : EntityType E) (em : EntityMeta) (row : Row) : Op σ E Proxy := do
  let entity ← T.ofRow row
  let h ← Op.addEntity entity
  Op.trigger T h .postLoad
  let key := T.key (← Op.cell h).entity
  Op.modifyCell h fun cell => { cell with loaded := loadedFromRow em row }
  return { handle := h, entityMeta := em, key }

/-- Run a read, and turn its rows into proxies. -/
def loadProxies (T : EntityType E) (em : EntityMeta) (request : Request) :
    Op σ E (List Proxy) :=
  immediately do
    let rows ← Op.executeRequest request
    rows.mapM (proxyOfRow T em)

/-- A query for a slice of a clustered class. -/
def sliceQuery (T : EntityType E) : Op σ E SliceQuery := do
  SliceQuery.ofMeta (← entityMeta T)

/-- Read a slice. -/
def getSlice (T : EntityType E) (slice : SliceQuery) : Op σ E (List Proxy) := do
  let em ← entityMeta T
  let statement ← slice.select
  loadProxies T em
    ((Request.regular statement.query statement.values (Levels.read .none em)).withFetchSize
      statement.fetchSize)

/-- Delete a slice. -/
def removeSlice (T : EntityType E) (slice : SliceQuery) : Op σ E Unit := do
  let em ← entityMeta T
  let statement ← slice.delete
  let _ ← immediately (Op.push
    (.regular statement.query statement.values (Levels.write .none em)))

/-- The error for a blank query text. -/
def blankQuery (kind : String) : Error :=
  .ofViolation "query" .blank s!"The query string for {kind} query should not be blank"

/-- Run a hand-written statement, and give its rows. -/
def nativeQuery (query : String) (values : List Value) : Op σ E (List Row) := do
  if Text.isBlank query then throw (.failed (blankQuery "native"))
  let level := (← get).config.readLevel
  immediately (Op.executeRequest (.regular query values level))

/-- The metadata that a hand-written query is checked against. -/
def typedMeta (T : EntityType E) (query : String) : Op σ E EntityMeta := do
  if Text.isBlank query then throw (.failed (blankQuery "typed"))
  match (← get).types.lookup T.typeName with
  | some em => return em
  | none =>
    throw (.failed (.ofViolation T.shortName .notRegistered
      s!"Cannot perform typed query because the entityClass '{T.shortName}' is not managed"))

/-- Run a hand-written read, and turn its rows into proxies. -/
def typedQuery (T : EntityType E) (query : String) (values : List Value) :
    Op σ E (List Proxy) := do
  let em ← typedMeta T query
  TypedQuery.validate em query
  loadProxies T em (.regular query values (Levels.read .none em))

/-- Run a hand-written read, and turn its rows into bare entities without any interceptor. -/
def rawTypedQuery (T : EntityType E) (query : String) (values : List Value) :
    Op σ E (List E) := do
  let em ← typedMeta T query
  TypedQuery.validateRaw em query
  let rows ← immediately
    (Op.executeRequest (.regular query values (Levels.read .none em)))
  rows.mapM fun row => (T.ofRow row : Except Error E)

/-- Read entities through a secondary index. -/
def indexedQuery (T : EntityType E) (condition : IndexCondition) : Op σ E (List Proxy) := do
  let em ← entityMeta T
  let (query, values) ← condition.query em
  loadProxies T em (.regular query values (Levels.read .none em))

end Manager

end WideColumn
