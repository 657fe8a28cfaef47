import WideColumn.Entity
import WideColumn.Meta.Encoding
import WideColumn.Options
import WideColumn.Persist.KeyText
import WideColumn.Query.Template
import WideColumn.StatementCache

/-!
# Registry of prepared statements

The statements of the registered entity classes, kept by class name, the statements of the shared
counter table, and the cached updates. The `bind...` functions turn a key or an entity into a
request: they look up the statement and encode the values in the order of its markers.
-/

namespace WideColumn

/-- The prepared statements of one entity class. -/
structure EntityStatements where
  /-- None for a counter table, whose rows are written by increments only. -/
  insert : Option Prepared
  selectEntity : Option Prepared
  /-- By property name. -/
  selectFields : List (String × Prepared)
  /-- By table name. -/
  deletes : List (String × Prepared)
  /-- The statements of a counter table; the first entry of a key counts. -/
  clusteredCounters : List ((CounterAction × String) × Prepared)
deriving Repr, DecidableEq

/-- All prepared statements. -/
structure Registry where
  /-- By class name. -/
  entities : List (String × EntityStatements)
  sharedCounters : List (CounterAction × Prepared)
  updates : StatementCache
deriving Repr, DecidableEq

/-- The time to live bound to a marker, in seconds; none is zero, and the largest value that fits
stands for everything above it. -/
def ttlValue (options : Options) : Value :=
  .int (Int32.ofNat (min ((options.ttl.getD 0).toNat) (Nat.pow 2 31 - 1)))

/-- The action of a delta and the magnitude that is bound. A magnitude beyond 64 bits is refused. -/
def counterDelta (em : EntityMeta) (pm : PropertyMeta) (delta : Int) :
    Except Error (CounterAction × Value) :=
  if delta.natAbs < Nat.pow 2 63 then
    .ok (if 0 ≤ delta then .incr else .decr, .bigint (Int64.ofNat delta.natAbs))
  else
    .error (.ofViolation pm.name .custom
      s!"The delta {delta} of counter '{pm.name}' of entity '{em.className}' is out of range")

namespace Registry

/-- No statement, and room for the given number of updates. -/
def ofCapacity (capacity : Nat) : Registry := ⟨[], [], .ofCapacity capacity⟩

/-- Whether the statements of a class are there. -/
def isRegistered (r : Registry) (className : String) : Bool :=
  (r.entities.lookup className).isSome

/-- Add the statements of a class. -/
def addEntity (r : Registry) (className : String) (statements : EntityStatements) : Registry :=
  { r with entities := (className, statements) :: r.entities }

/-- Add a statement of the shared counter table. -/
def addShared (r : Registry) (action : CounterAction) (p : Prepared) : Registry :=
  { r with sharedCounters := (action, p) :: r.sharedCounters }

/-- The statements of a class, which has to be registered. -/
def statements (r : Registry) (em : EntityMeta) : Except Error EntityStatements :=
  match r.entities.lookup em.className with
  | some statements => .ok statements
  | none =>
    .error (.ofViolation em.className .notRegistered
      s!"The entity class '{em.className}' is not managed")

/-- The error for a statement that the class does not have. -/
def missing (em : EntityMeta) (what : String) : Error :=
  .invalidState s!"No {what} statement prepared for entity '{em.className}'"

/-- A statement that may be missing. -/
def orMissing (em : EntityMeta) (what : String) : Option Prepared → Except Error Prepared
  | some p => .ok p
  | none => .error (missing em what)

/-- The encoded components of a key. -/
def encodedKey (em : EntityMeta) (key : List Value) : Except Error (List Value) :=
  em.id.encodeComponents key

/-- The value of an attribute in an insert; of several values of one name the last counts. -/
def insertValue {E : Type} (T : EntityType E) (entity : E) (name : String) : Value :=
  ((T.values entity).reverse.lookup name).getD .null

/-- The value of an attribute in an update. -/
def updateValue {E : Type} (T : EntityType E) (entity : E) (name : String) : Value :=
  (T.value? entity name).getD .null

/-- Bind the key, the plain attributes and the time to live. -/
def bindInsert {E : Type} (r : Registry) (T : EntityType E) (em : EntityMeta) (entity : E)
    (options : Options) (level : Level) : Except Error Request := do
  let p ← orMissing em "insert" (← r.statements em).insert
  let key ← encodedKey em (T.key entity)
  let attributes ← em.plain.mapM fun pm => pm.encode (insertValue T entity pm.name)
  return (Request.bound p (key ++ attributes ++ [ttlValue options]) level).withTimestamp
    options.timestamp

/-- The values of an update: time to live, attributes in the given order, key. -/
def updateValues {E : Type} (T : EntityType E) (em : EntityMeta) (entity : E)
    (properties : List PropertyMeta) (options : Options) : Except Error (List Value) := do
  let attributes ← properties.mapM fun pm => pm.encode (updateValue T entity pm.name)
  let key ← encodedKey em (T.key entity)
  return ttlValue options :: attributes ++ key

/-- The deletes of a row, one per table. -/
def bindRemoval (r : Registry) (em : EntityMeta) (key : List Value) (options : Options)
    (level : Level) : Except Error (List Request) := do
  let statements ← r.statements em
  let key ← encodedKey em key
  return statements.deletes.map fun (_, p) =>
    (Request.bound p key level).withTimestamp options.timestamp

/-- Bind the key to a statement that was found. -/
def bindKey (em : EntityMeta) (p : Prepared) (key : List Value) (level : Level) :
    Except Error Request := do
  return .bound p (← encodedKey em key) level

/-- The read of an entity. -/
def bindSelect (r : Registry) (em : EntityMeta) (key : List Value) (level : Level) :
    Except Error Request := do
  bindKey em (← orMissing em "select" (← r.statements em).selectEntity) key level

/-- The read of one property. Counters have none, and no property of another class has one. -/
def bindSelectField (r : Registry) (em : EntityMeta) (pm : PropertyMeta) (key : List Value)
    (level : Level) : Except Error Request := do
  match (← r.statements em).selectFields.lookup pm.name with
  | some p => bindKey em p key level
  | none =>
    let _ ← Template.selectField em pm
    throw (missing em "field select")

/-! ## The shared counter table -/

/-- A statement of the shared counter table. -/
def sharedCounter (r : Registry) (em : EntityMeta) (action : CounterAction) :
    Except Error Prepared := do
  let _ ← r.statements em
  orMissing em "counter" (r.sharedCounters.lookup action)

/-- The key of a counter in the shared table: class name, text of the key, property name. -/
def sharedCounterKey (em : EntityMeta) (pm : PropertyMeta) (key : List Value) :
    Except Error (List Value) := do
  let encoded ← encodedKey em key
  return [.text em.className, .text (keyText encoded), .text pm.name]

/-- One increment or decrement of a shared counter. -/
def bindSharedDelta (r : Registry) (em : EntityMeta) (pm : PropertyMeta) (key : List Value)
    (delta : Int) (level : Level) : Except Error Request := do
  let (action, magnitude) ← counterDelta em pm delta
  let p ← r.sharedCounter em action
  return .bound p (magnitude :: (← sharedCounterKey em pm key)) level

/-- The read or the delete of a shared counter. -/
def bindShared (r : Registry) (action : CounterAction) (em : EntityMeta) (pm : PropertyMeta)
    (key : List Value) (level : Level) : Except Error Request := do
  let p ← r.sharedCounter em action
  return .bound p (← sharedCounterKey em pm key) level

/-! ## Counter tables -/

/-- A statement of a counter table. -/
def clusteredCounter (r : Registry) (em : EntityMeta) (action : CounterAction) (name : String) :
    Except Error Prepared := do
  orMissing em "clustered counter" ((← r.statements em).clusteredCounters.lookup (action, name))

/-- One increment or decrement of a counter column. -/
def bindClusteredDelta (r : Registry) (em : EntityMeta) (pm : PropertyMeta) (key : List Value)
    (delta : Int) (level : Level) : Except Error Request := do
  let (action, magnitude) ← counterDelta em pm delta
  let p ← r.clusteredCounter em action pm.name
  return .bound p (magnitude :: (← encodedKey em key)) level

/-- The read of a counter column, or the read or delete of a whole counter row, by name. -/
def bindClustered (r : Registry) (action : CounterAction) (name : String) (em : EntityMeta)
    (key : List Value) (level : Level) : Except Error Request := do
  bindKey em (← r.clusteredCounter em action name) key level

end Registry

end WideColumn
