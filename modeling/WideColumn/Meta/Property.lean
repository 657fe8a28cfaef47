import WideColumn.Level
import WideColumn.Meta.Key
import WideColumn.Text.Blank

/-!
# Properties

A property is one mapped attribute of an entity: a key, a column, or a counter. A `PropertyDraft`
is what a caller declares; `PropertyDraft.build` checks it and gives the `PropertyMeta` that the
rest of the library works with.
-/

namespace WideColumn

/-- What a property holds. -/
inductive PropertyKind where
  /-- The key, in a single column. -/
  | id
  /-- The key, in several columns. -/
  | embeddedId
  | simple
  | list
  | set
  | map
  | counter
deriving Repr, DecidableEq

namespace PropertyKind

/-- Whether this is the key. -/
def isId : PropertyKind → Bool
  | id | embeddedId => true
  | _ => false

/-- Whether this is a counter. -/
def isCounter : PropertyKind → Bool
  | counter => true
  | _ => false

/-- Whether this is a list, a set or a map. -/
def isCollection : PropertyKind → Bool
  | list | set | map => true
  | _ => false

end PropertyKind

/-- A property as declared. -/
structure PropertyDraft where
  name : String
  kind : PropertyKind
  type : CqlType
  readLevel : Option Level
  writeLevel : Option Level
  /-- Whether a proxy may change the attribute. -/
  hasSetter : Bool
  /-- Whether the attribute is read on demand only. -/
  isLazy : Bool
  key : Option CompoundKey
deriving Repr, DecidableEq

/-- A checked property of an entity class. -/
structure PropertyMeta extends PropertyDraft where
  entityClass : String
deriving Repr, DecidableEq

/-- How the declaration of a property can be wrong. -/
inductive PropertyFault where
  | blankName
  | noComponents (name : String)
  | unexpectedComponents (name : String)
  | key (fault : KeyFault)
  | counterType (name : String)
  | lazyKey (name : String)
deriving Repr, DecidableEq

namespace PropertyFault

/-- The text of a fault in a property of the given entity. -/
def message (entity : String) : PropertyFault → String
  | blankName => s!"A property of entity '{entity}' has a blank name"
  | noComponents name => s!"The compound key '{name}' of entity '{entity}' has no components"
  | unexpectedComponents name =>
    s!"Only a compound key may declare key components, not '{name}'"
  | key fault => fault.message entity
  | counterType name =>
    s!"The property '{name}' of entity '{entity}' must use the counter type if and only if it is a counter"
  | lazyKey name => s!"The primary key '{name}' of entity '{entity}' cannot be lazy"

/-- The error of a fault. -/
def toError (entity : String) (fault : PropertyFault) : Error :=
  match fault with
  | key _ => .mapping .compoundKey entity (fault.message entity)
  | _ => .mapping .invalid entity (fault.message entity)

end PropertyFault

namespace PropertyDraft

/-- A property with a setter, read eagerly, without levels of its own. -/
def ofKind (name : String) (kind : PropertyKind) (type : CqlType) : PropertyDraft :=
  { name, kind, type, readLevel := none, writeLevel := none, hasSetter := true, isLazy := false,
    key := none }

/-- The fault in the declared key components. -/
def keyFault? (draft : PropertyDraft) : Option PropertyFault :=
  match draft.kind, draft.key with
  | .embeddedId, none => some (.noComponents draft.name)
  | .embeddedId, some key => key.fault?.map .key
  | _, some _ => some (.unexpectedComponents draft.name)
  | _, none => none

/-- The first fault of a declaration. -/
def fault? (draft : PropertyDraft) : Option PropertyFault :=
  if Text.isBlank draft.name then some .blankName
  else
    match draft.keyFault? with
    | some fault => some fault
    | none =>
      if draft.kind.isCounter != (draft.type == .counter) then some (.counterType draft.name)
      else if draft.kind.isId && draft.isLazy then some (.lazyKey draft.name)
      else none

/-- The checked property of the given class. -/
def build (draft : PropertyDraft) (entityClass : String) : Except Error PropertyMeta :=
  match draft.fault? with
  | some fault => .error (fault.toError entityClass)
  | none => .ok { draft with entityClass }

end PropertyDraft

namespace PropertyMeta

/-- Whether this is the key. -/
def isId (pm : PropertyMeta) : Bool := pm.kind.isId

/-- Whether this is a counter. -/
def isCounter (pm : PropertyMeta) : Bool := pm.kind.isCounter

/-- Whether this is a key of several columns. -/
def isEmbeddedId (pm : PropertyMeta) : Bool := pm.kind == .embeddedId

/-- The columns that hold the property, in declared order. -/
def columnNames (pm : PropertyMeta) : List String :=
  match pm.key with
  | some key => key.columnNames
  | none => [pm.name]

/-- The types of the columns, in declared order. -/
def columnTypes (pm : PropertyMeta) : List CqlType :=
  match pm.key with
  | some key => key.components.map KeyComponent.type
  | none => [pm.type]

/-- Every column has a type. -/
theorem length_columnTypes (pm : PropertyMeta) :
    pm.columnTypes.length = pm.columnNames.length := by
  unfold columnTypes columnNames CompoundKey.columnNames
  split <;> simp

end PropertyMeta

end WideColumn
