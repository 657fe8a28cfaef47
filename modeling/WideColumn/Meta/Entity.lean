import WideColumn.Meta.Property

/-!
# Entity metadata

What the library knows about an entity class: its table, its key, its other properties in declared
order, and its levels. An `EntityDraft` is what a caller declares; `EntityDraft.build` checks it.
-/

namespace WideColumn

/-- Metadata of an entity class as declared. -/
structure EntityDraft where
  className : String
  tableName : String
  properties : List PropertyDraft
  readLevel : Option Level
  writeLevel : Option Level
  /-- Whether the columns besides the key are counters of the row itself. -/
  isClusteredCounter : Bool
deriving Repr, DecidableEq

/-- Checked metadata of an entity class. -/
structure EntityMeta where
  className : String
  tableName : String
  /-- The key. -/
  id : PropertyMeta
  /-- All properties in declared order, the key included. -/
  properties : List PropertyMeta
  declaredReadLevel : Option Level
  declaredWriteLevel : Option Level
  readLevel : Level
  writeLevel : Level
  isClusteredCounter : Bool
deriving Repr, DecidableEq

/-- How the declaration of an entity class can be wrong. -/
inductive EntityFault where
  | blankTable
  | duplicateProperty (name : String)
  | property (fault : PropertyFault)
  | noId
  | manyIds (count : Nat)
  | counterTableNotClustered
  | counterTableColumn (name : String)
  | counterTableEmpty
deriving Repr, DecidableEq

namespace EntityFault

/-- The error of a fault in the given entity class. -/
def toError (entity : String) : EntityFault → Error
  | blankTable => .mapping .invalid entity s!"The entity '{entity}' has a blank table name"
  | duplicateProperty name =>
    .mapping .invalid entity s!"The property '{name}' is declared twice"
  | property fault => fault.toError entity
  | noId =>
    .mapping .id entity s!"The entity '{entity}' should have exactly one id, found none"
  | manyIds count =>
    .mapping .id entity s!"The entity '{entity}' should have exactly one id, found {count}"
  | counterTableNotClustered =>
    .mapping .clusteredCounter entity
      s!"The clustered counter entity '{entity}' should have a compound key with clustering components"
  | counterTableColumn name =>
    .mapping .clusteredCounter entity
      s!"The clustered counter entity '{entity}' should only have counter properties, '{name}' is not a counter"
  | counterTableEmpty =>
    .mapping .clusteredCounter entity
      s!"The clustered counter entity '{entity}' should have at least one counter property"

end EntityFault

namespace EntityDraft

/-- Check the properties one after the other: each has a new name and is well declared. -/
def buildProperties (entityClass : String) (seen : List String) :
    List PropertyDraft → Except EntityFault (List PropertyMeta)
  | [] => .ok []
  | draft :: rest =>
    if seen.contains draft.name then .error (.duplicateProperty draft.name)
    else
      match draft.fault? with
      | some fault => .error (.property fault)
      | none => do
        let checked ← buildProperties entityClass (draft.name :: seen) rest
        return { draft with entityClass } :: checked

/-- The one key among the properties. -/
def theId (properties : List PropertyMeta) : Except EntityFault PropertyMeta :=
  match properties.filter PropertyMeta.isId with
  | [id] => .ok id
  | [] => .error .noId
  | many => .error (.manyIds many.length)

/-- The fault of a table whose columns besides the key should be counters. -/
def counterTableFault? (id : PropertyMeta) (properties : List PropertyMeta) : Option EntityFault :=
  let others := properties.filter fun pm => !pm.isId
  if !(id.key.any CompoundKey.isClustered) then some .counterTableNotClustered
  else
    match others.find? fun pm => !pm.isCounter with
    | some pm => some (.counterTableColumn pm.name)
    | none => if others.isEmpty then some .counterTableEmpty else none

/-- The checked metadata, or the first fault: the table name, then the properties in order, then
the key, then the rules of counter tables. -/
def check (draft : EntityDraft) : Except EntityFault EntityMeta := do
  if Text.isBlank draft.tableName then throw .blankTable
  let properties ← buildProperties draft.className [] draft.properties
  let id ← theId properties
  if draft.isClusteredCounter then
    if let some fault := counterTableFault? id properties then throw fault
  return {
    className := draft.className
    tableName := draft.tableName
    id, properties
    declaredReadLevel := draft.readLevel
    declaredWriteLevel := draft.writeLevel
    readLevel := draft.readLevel.getD Level.standard
    writeLevel := draft.writeLevel.getD Level.standard
    isClusteredCounter := draft.isClusteredCounter }

/-- The checked metadata. -/
def build (draft : EntityDraft) : Except Error EntityMeta :=
  draft.check.mapError (EntityFault.toError draft.className)

end EntityDraft

namespace EntityMeta

/-- The metadata with resolved levels. -/
def withLevels (em : EntityMeta) (read write : Level) : EntityMeta :=
  { em with readLevel := read, writeLevel := write }

/-- Whether partitions have more than one row. -/
def isClustered (em : EntityMeta) : Bool := em.id.key.any CompoundKey.isClustered

/-- Whether the key has several columns. -/
def hasCompoundKey (em : EntityMeta) : Bool := em.id.isEmbeddedId

/-- The columns of the key, in declared order. -/
def idColumns (em : EntityMeta) : List String := em.id.columnNames

/-- The properties besides the key and the counters. -/
def plain (em : EntityMeta) : List PropertyMeta :=
  em.properties.filter fun pm => !pm.isId && !pm.isCounter

/-- The counters. -/
def counters (em : EntityMeta) : List PropertyMeta :=
  em.properties.filter PropertyMeta.isCounter

/-- The plain properties that a read of the entity fills in. -/
def eager (em : EntityMeta) : List PropertyMeta :=
  em.plain.filter fun pm => !pm.isLazy

/-- The plain properties that are read on demand. -/
def onDemand (em : EntityMeta) : List PropertyMeta :=
  em.plain.filter fun pm => pm.isLazy

/-- The property of the given name. -/
def find? (em : EntityMeta) (name : String) : Option PropertyMeta :=
  em.properties.find? fun pm => pm.name == name

/-- The property of the given name; an unknown name is an error. -/
def property (em : EntityMeta) (name : String) : Except Error PropertyMeta :=
  match em.find? name with
  | some pm => .ok pm
  | none =>
    .error (.mapping .unknownProperty em.className s!"The property '{name}' is not mapped")

/-- The properties that a read of the whole row fills in: the key, then the eager properties, or
the counters where the columns are counters. -/
def eagerlyLoaded (em : EntityMeta) : List String :=
  em.id.name ::
    (if em.isClusteredCounter then em.counters else em.eager).map (fun pm => pm.name)

end EntityMeta

end WideColumn
