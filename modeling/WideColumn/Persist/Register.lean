import WideColumn.Persist.Site

/-!
# Preparing statements

The statements of an entity class are prepared when the class is registered; an update is prepared
when it is first needed. Every prepared statement is a call to the session and may fail; the
statements of a class are kept only once all of them are there, those of the shared counter table
one by one.
-/

namespace WideColumn.Op

variable {σ E : Type} [Session σ]

/-- Prepare statements given by key and text. -/
def prepareAll {κ : Type} (texts : List (κ × String)) : Op σ E (List (κ × Prepared)) :=
  texts.mapM fun (key, text) => do return (key, ← prepare text)

/-- Prepare the statements of a counter table. Of two with one key the later one is kept. -/
def prepareClustered (em : EntityMeta) : Op σ E EntityStatements := do
  let clustered ← prepareAll (Template.clusteredCounters em)
  return { insert := none, selectEntity := none, selectFields := [], deletes := [],
           clusteredCounters := clustered.reverse }

/-- Prepare the statements of any other table. -/
def preparePlain (em : EntityMeta) : Op σ E EntityStatements := do
  let insert ← prepare (Template.insert em)
  let selectEntity ← prepare (Template.selectEntity em)
  let selectFields ← em.plain.mapM fun pm => do
    return (pm.name, ← prepare (← Template.selectField em pm))
  let deletes ← prepareAll (Template.deletes em)
  return { insert := some insert, selectEntity := some selectEntity, selectFields, deletes,
           clusteredCounters := [] }

/-- Prepare the statements of the shared counter table, unless some of them are there. -/
def prepareShared : Op σ E Unit := do
  if (← get).registry.sharedCounters.isEmpty then
    Template.sharedCounters.forM fun (action, text) => do
      let p ← prepare text
      modifyRegistry fun r => r.addShared action p

/-- Prepare the statements of a class. A class that is registered stays as it is. -/
def registerStatements (em : EntityMeta) : Op σ E Unit := do
  if (← get).registry.isRegistered em.className then return ()
  let statements ← if em.isClusteredCounter then prepareClustered em else preparePlain em
  if !em.isClusteredCounter && !em.counters.isEmpty then prepareShared
  modifyRegistry fun r => r.addEntity em.className statements

/-- The prepared update of a set of properties, from the cache if it is there. -/
def preparedUpdate (em : EntityMeta) (properties : List PropertyMeta) : Op σ E Prepared := do
  let key := StatementKey.ofProperties em.className (properties.map fun pm => pm.name)
  let (cached, updates) := (← get).registry.updates.get key
  modifyRegistry fun r => { r with updates }
  match cached with
  | some p => return p
  | none =>
    let p ← prepare (Template.update em properties)
    modifyRegistry fun r => { r with updates := r.updates.insert key p }
    return p

/-- The update of exactly the given properties, in the order of their names. -/
def bindUpdate (T : EntityType E) (em : EntityMeta) (entity : E) (properties : List PropertyMeta)
    (options : Options) (level : Level) : Op σ E Request := do
  let _ ← (← get).registry.statements em
  let properties := properties.mergeSort fun a b => decide (a.name ≤ b.name)
  let p ← preparedUpdate em properties
  let values ← Registry.updateValues T em entity properties options
  return (Request.bound p values level).withTimestamp options.timestamp

end WideColumn.Op
