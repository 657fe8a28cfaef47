import WideColumn.Persist.Levels
import WideColumn.Persist.Outbox
import WideColumn.Persist.Proxy
import WideColumn.Persist.Register

/-!
# Operations on one entity

What it takes to write, change, remove and read entities of one class: statements are bound, levels
are chosen, interceptors are triggered, and everything passes through the outbox of the site.
-/

namespace WideColumn

/-- One call of an operation on entities of one class. -/
structure Call (E : Type) where
  type : EntityType E
  entityMeta : EntityMeta
  /-- The options that the statements are sent with. -/
  options : Options
  /-- The options recorded on proxies; they lack the level of a batch window. -/
  proxyOptions : Options

/-- The outcome of reading a proxy again. -/
inductive Refresh where
  | refreshed
  /-- The row does not exist any more; the proxy stays as it was. -/
  | stale
deriving Repr, DecidableEq

namespace Call

variable {σ E : Type} [Session σ]

/-- The proxy of an entity in the workspace, with the properties that are known. -/
def manage (c : Call E) (h : Handle) (key : List Value) (loaded : List String) : Op σ E Proxy := do
  Op.modifyCell h fun cell => { cell with loaded, options := c.proxyOptions }
  return { handle := h, entityMeta := c.entityMeta, key }

/-- Take the queued deltas off one counter cell. -/
def drainCounter (T : EntityType E) (name : String) (entity : E) : Option (List Int × E) :=
  (T.counter? entity name).map fun counter =>
    let (deltas, counter) := counter.takePending
    (deltas, T.setCounter entity name counter)

/-- Take the queued deltas off all counter cells, in declared order. -/
def drainCounters (T : EntityType E) : List PropertyMeta → E → List (PropertyMeta × List Int) × E
  | [], entity => ([], entity)
  | pm :: rest, entity =>
    match drainCounter T pm.name entity with
    | none => drainCounters T rest entity
    | some (deltas, entity) =>
      let (drained, entity) := drainCounters T rest entity
      ((pm, deltas) :: drained, entity)

/-- Bind one delta. -/
def bindDelta (c : Call E) (r : Registry) (pm : PropertyMeta) (key : List Value) (delta : Int) :
    Except Error Request :=
  let level := Levels.writeProperty c.options pm c.entityMeta
  if c.entityMeta.isClusteredCounter then r.bindClusteredDelta c.entityMeta pm key delta level
  else r.bindSharedDelta c.entityMeta pm key delta level

/-- Send one delta. -/
def sendDelta (c : Call E) (key : List Value) (pm : PropertyMeta) (delta : Int) : Op σ E Unit := do
  let request ← c.bindDelta (← get).registry pm key delta
  let _ ← Op.pushCounter request

/-- Send the deltas of all counters, one statement each; a delta of zero is not sent. -/
def sendDeltas (c : Call E) (key : List Value) (drained : List (PropertyMeta × List Int)) :
    Op σ E Unit :=
  drained.forM fun (pm, deltas) => (deltas.filter (· != 0)).forM (c.sendDelta key pm)

/-- Take the deltas of an entity and send them. -/
def writeCounters (c : Call E) (h : Handle) (key : List Value) : Op σ E Unit := do
  let (drained, entity) := drainCounters c.type c.entityMeta.counters (← Op.cell h).entity
  Op.modifyCell h fun cell => { cell with entity }
  c.sendDeltas key drained

/-- Write a new entity. A row of a counter table is written by its deltas alone, any other by an
insert and its deltas. -/
def persist (c : Call E) (entity : E) : Op σ E Proxy := do
  let em := c.entityMeta
  let h ← Op.addEntity entity
  Op.trigger c.type h .prePersist
  let key := c.type.key (← Op.cell h).entity
  if !em.isClusteredCounter then
    let entity := (← Op.cell h).entity
    let request ← (← get).registry.bindInsert c.type em entity c.options
      (Levels.write c.options em)
    let _ ← Op.push request
  c.writeCounters h key
  Op.trigger c.type h .postPersist
  c.manage h key (em.properties.map fun pm => pm.name)

/-- Write the changed properties of a proxy as one update, if there are any. -/
def writeDirty (c : Call E) (p : Proxy) : Op σ E Unit := do
  let em := c.entityMeta
  let cell ← Op.cell p.handle
  let dirty := cell.dirty.properties.filter fun pm => !pm.isCounter
  if !dirty.isEmpty then
    let request ← Op.bindUpdate c.type em cell.entity dirty c.options (Levels.write c.options em)
    let _ ← Op.push request
    Op.modifyCell p.handle fun cell => { cell with dirty := .empty }

/-- Write what changed on a proxy: its changed properties, then its deltas. -/
def update (c : Call E) (p : Proxy) : Op σ E Unit := do
  Op.trigger c.type p.handle .preUpdate
  c.writeDirty p
  c.writeCounters p.handle p.key
  Op.trigger c.type p.handle .postUpdate
  Op.modifyCell p.handle fun cell => { cell with options := c.proxyOptions }

/-- Delete the row of a key, with its counters in the shared table. -/
def removeByKey (c : Call E) (key : List Value) : Op σ E Unit := do
  let em := c.entityMeta
  let level := Levels.write c.options em
  if em.isClusteredCounter then
    let request ← (← get).registry.bindClustered .delete Template.deleteAll em key level
    let _ ← Op.pushCounter request
  else
    let requests ← (← get).registry.bindRemoval em key c.options level
    requests.forM fun request => do let _ ← Op.push request
    em.counters.forM fun pm => do
      let request ← (← get).registry.bindShared .delete em pm key
        (Levels.writeProperty c.options pm em)
      let _ ← Op.pushCounter request

/-- Delete an entity. -/
def remove (c : Call E) (entity : E) : Op σ E Unit := do
  let h ← Op.addEntity entity
  Op.trigger c.type h .preRemove
  let key := c.type.key (← Op.cell h).entity
  c.removeByKey key
  Op.trigger c.type h .postRemove

/-- Read the row of a key into the workspace; none if there is no row. -/
def load (c : Call E) (key : List Value) : Op σ E (Option Handle) := do
  let em := c.entityMeta
  let level := Levels.read c.options em
  let registry := (← get).registry
  let request ←
    if em.isClusteredCounter then
      (registry.bindClustered .select Template.selectAll em key level : Except Error Request)
    else registry.bindSelect em key level
  match ← Op.executeRequest request with
  | [] => return none
  | row :: _ =>
    let entity ← c.type.ofRow row
    let h ← Op.addEntity entity
    Op.trigger c.type h .postLoad
    return some h

/-- The entity of a key, with its eager properties. -/
def find (c : Call E) (key : List Value) : Op σ E (Option Proxy) := do
  match ← c.load key with
  | none => return none
  | some h => return some (← c.manage h key c.entityMeta.eagerlyLoaded)

/-- A proxy that has only its key; nothing is read. -/
def proxyOfKey (c : Call E) (key : List Value) : Op σ E Proxy := do
  let id := c.entityMeta.id
  let _ ← id.encodeComponents key
  let entity ← c.type.ofKey key
  let h ← Op.addEntity entity
  c.manage h key [id.name]

/-- Read a proxy again. What changed on it is given up. -/
def refresh (c : Call E) (p : Proxy) : Op σ E Refresh := do
  match ← c.load p.key with
  | none => return .stale
  | some h =>
    let entity := (← Op.cell h).entity
    Op.modifyCell p.handle fun cell =>
      { cell with entity, dirty := .empty, loaded := c.entityMeta.eagerlyLoaded }
    return .refreshed

/-- The value of a column in the first row. -/
def firstValue (rows : List Row) (column : String) : Option Value :=
  rows.head? >>= fun row => row.find? column

/-- Record that a property was read. -/
def markLoaded (p : Proxy) (name : String) : Op σ E Unit :=
  Op.modifyCell p.handle fun cell => { cell with loaded := addName name cell.loaded }

/-- Read one property of a proxy. A row or column that is not there reads as null. -/
def readProperty (c : Call E) (p : Proxy) (pm : PropertyMeta) : Op σ E Unit := do
  let level := Levels.readProperty c.options pm c.entityMeta
  let request ← (← get).registry.bindSelectField c.entityMeta pm p.key level
  let rows ← Op.executeRequest request
  let value ← pm.decode ((firstValue rows pm.name).getD .null)
  let cell ← Op.cell p.handle
  let entity ← c.type.write cell.entity pm.name value
  Op.modifyCell p.handle fun cell => { cell with entity }
  markLoaded p pm.name

/-- Set the value read for a counter; queued deltas stay. -/
def setCounterLoaded (T : EntityType E) (name : String) (value : Option Int) (entity : E) : E :=
  match T.counter? entity name with
  | some counter => T.setCounter entity name (counter.setLoaded value)
  | none => entity

/-- Read one counter of a proxy. -/
def readCounter (c : Call E) (p : Proxy) (pm : PropertyMeta) : Op σ E Unit := do
  let em := c.entityMeta
  let level := Levels.readProperty c.options pm em
  let registry := (← get).registry
  let request ←
    if em.isClusteredCounter then
      (registry.bindClustered .select pm.name em p.key level : Except Error Request)
    else registry.bindShared .select em pm p.key level
  let column := if em.isClusteredCounter then pm.name else Template.counterValue
  let rows ← Op.executeRequest request
  let value := (firstValue rows column >>= Value.int?).map Int64.toInt
  Op.modifyCell p.handle fun cell =>
    { cell with entity := setCounterLoaded c.type pm.name value cell.entity }
  markLoaded p pm.name

/-- Run a step for every property of a proxy that was neither read nor written. -/
def forUnloaded (p : Proxy) (properties : List PropertyMeta)
    (step : PropertyMeta → Op σ E Unit) : Op σ E Unit :=
  properties.forM fun pm => do
    if !((← Op.cell p.handle).loaded.contains pm.name) then step pm

/-- Read the properties and counters of a proxy that are still missing. -/
def complete (c : Call E) (p : Proxy) : Op σ E Unit := do
  forUnloaded p c.entityMeta.onDemand (c.readProperty p)
  forUnloaded p c.entityMeta.counters (c.readCounter p)

end Call

end WideColumn
